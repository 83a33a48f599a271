import Logbook.Proofs.Text.Utf8
import Logbook.Text.Offset
import Mathlib.Tactic.Common

/-! Offsets. The places to cut a text at are the lengths in bytes of what can stand before them, and a
slice is what is left between two of them. -/

namespace Logbook.Text

variable {c : Char} {s before after part : List Char} {offset start stop : Nat}

@[simp] theorem byteLength_nil : byteLength [] = 0 := rfl

@[simp] theorem byteLength_cons (c : Char) (s : List Char) :
    byteLength (c :: s) = c.utf8Size + byteLength s := rfl

@[simp] theorem byteLength_append (s t : List Char) :
    byteLength (s ++ t) = byteLength s + byteLength t := by
  induction s with
  | nil => simp
  | cons c s ih => simp [ih, Nat.add_assoc]

theorem byteLength_eq_zero_iff : byteLength s = 0 ↔ s = [] := by
  cases s with
  | nil => simp
  | cons c s =>
    have hpos := c.utf8Size_pos
    simp
    omega

theorem byteLength_eq_length_encode (s : List Char) :
    byteLength s = (Utf8.encode (String.ofList s)).length := by
  rw [Utf8.encode_eq, String.toList_ofList]
  induction s with
  | nil => rfl
  | cons c s ih => simp [ih]

theorem cutOffset?_append (before after : List Char) :
    cutOffset? (byteLength before) (before ++ after) = some (before, after) := by
  induction before with
  | nil => cases after <;> rfl
  | cons c before ih =>
    have hpos := c.utf8Size_pos
    have hzero : ¬ byteLength (c :: before) = 0 := by rw [byteLength_cons]; omega
    have hle : c.utf8Size ≤ byteLength (c :: before) := Nat.le_add_right _ _
    have hrest : byteLength (c :: before) - c.utf8Size = byteLength before := by
      rw [byteLength_cons, Nat.add_sub_cancel_left]
    rw [List.cons_append, cutOffset?, if_neg hzero, if_pos hle, hrest, ih]
    rfl

theorem eq_of_cutOffset? (h : cutOffset? offset s = some (before, after)) :
    s = before ++ after ∧ byteLength before = offset := by
  induction s generalizing offset before with
  | nil =>
    rw [cutOffset?] at h
    split_ifs at h with hzero
    cases h
    exact ⟨rfl, hzero.symm⟩
  | cons c s ih =>
    rw [cutOffset?] at h
    split_ifs at h with hzero hle
    · cases h
      exact ⟨rfl, hzero.symm⟩
    · obtain ⟨⟨before, after⟩, hcut, heq⟩ := Option.map_eq_some_iff.mp h
      cases heq
      obtain ⟨rfl, hlength⟩ := ih hcut
      exact ⟨rfl, by rw [byteLength_cons, hlength, Nat.add_sub_cancel' hle]⟩

theorem cutOffset?_eq_some_iff :
    cutOffset? offset s = some (before, after) ↔ s = before ++ after ∧ byteLength before = offset := by
  refine ⟨eq_of_cutOffset?, ?_⟩
  rintro ⟨rfl, rfl⟩
  exact cutOffset?_append before after

/-- One text is not cut at one offset in two ways. -/
theorem append_inj_of_byteLength {before' after' : List Char} (h : before ++ after = before' ++ after')
    (hlength : byteLength before = byteLength before') : before = before' ∧ after = after' := by
  have hcut := cutOffset?_append before after
  rw [h, hlength, cutOffset?_append] at hcut
  cases hcut
  exact ⟨rfl, rfl⟩

theorem slice?_eq_some_iff :
    slice? start stop s = some part ↔
      ∃ before after, s = before ++ (part ++ after) ∧ byteLength before = start ∧
        byteLength (before ++ part) = stop := by
  simp only [slice?, Option.bind_eq_bind, Option.bind_eq_some_iff, Option.pure_def, Option.some.injEq,
    Prod.exists, cutOffset?_eq_some_iff]
  constructor
  · rintro ⟨front, after, ⟨rfl, hstop⟩, before, part', ⟨rfl, hstart⟩, rfl⟩
    exact ⟨before, after, List.append_assoc _ _ _, hstart, hstop⟩
  · rintro ⟨before, after, rfl, hstart, hstop⟩
    exact ⟨before ++ part, after, ⟨(List.append_assoc _ _ _).symm, hstop⟩, before, part,
      ⟨rfl, hstart⟩, rfl⟩

theorem slice?_append_eq_some_iff :
    slice? (byteLength before) stop (before ++ after) = some part ↔
      part <+: after ∧ stop = byteLength before + byteLength part := by
  rw [slice?_eq_some_iff]
  constructor
  · rintro ⟨before', after', heq, hstart, hstop⟩
    obtain ⟨rfl, rfl⟩ := append_inj_of_byteLength heq hstart.symm
    rw [byteLength_append] at hstop
    exact ⟨List.prefix_append part after', hstop.symm⟩
  · rintro ⟨⟨after', rfl⟩, rfl⟩
    exact ⟨before, after', rfl, rfl, byteLength_append before part⟩

theorem offsetOf?_append_cons (h : c ∉ before) (after : List Char) :
    offsetOf? c (before ++ c :: after) = some (byteLength before) := by
  induction before with
  | nil => simp [offsetOf?]
  | cons d before ih =>
    obtain ⟨hd, hbefore⟩ : c ≠ d ∧ c ∉ before := by simpa using h
    simp [offsetOf?, hd.symm, ih hbefore]

theorem offsetOf?_of_notMem (h : c ∉ s) : offsetOf? c s = none := by
  induction s with
  | nil => rfl
  | cons d s ih =>
    obtain ⟨hd, hs⟩ : c ≠ d ∧ c ∉ s := by simpa using h
    simp [offsetOf?, hd.symm, ih hs]

end Logbook.Text
