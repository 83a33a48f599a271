import Logbook.Proofs.Json.Written

/-! What is written on one line is a text of the value: without white space, with few escapes, and
for an integer its digits. So a value without doubles is read back, or refused for its depth
alone. -/

namespace Logbook.Json

/-- Every number is an integer that fits. -/
def Value.IsExact (v : Value) : Prop := ∀ n ∈ v.numbers, n.Fits ∧ n.IsInteger

theorem Value.IsCanonical.isExact {v : Value} (h : v.IsCanonical) (hfree : v.FloatFree) :
    v.IsExact :=
  fun n hn => ⟨h.fits n hn, hfree n hn⟩

theorem Value.isExact_array {items : List Value} :
    (Value.array items).IsExact ↔ ∀ v ∈ items, v.IsExact := by
  simp only [IsExact, numbers, mem_itemNumbers]
  constructor
  · exact fun h v hv n hn => h n ⟨v, hv, hn⟩
  · rintro h n ⟨v, hv, hn⟩
    exact h v hv n hn

theorem Value.isExact_object {ms : Members} :
    (Value.object ms).IsExact ↔ ∀ m ∈ ms, m.2.IsExact := by
  simp only [IsExact, numbers, mem_memberNumbers]
  constructor
  · exact fun h m hm n hn => h n ⟨m, hm, hn⟩
  · rintro h n ⟨m, hm, hn⟩
    exact h m hm n hn

theorem compactItems_cons_cons (v w : Value) (items : List Value) :
    Value.compactItems (v :: w :: items) =
      v.compactChars ++ ',' :: Value.compactItems (w :: items) := by
  simp [Value.compactItems]

theorem compactMembers_cons_cons (m m' : String × Value) (ms : List (String × Value)) :
    Value.compactMembers (m :: m' :: ms) =
      quote m.1 ++ ':' :: m.2.compactChars ++ ',' :: Value.compactMembers (m' :: ms) := by
  simp [Value.compactMembers]

theorem writes_compactItems {items : List Value} (hne : items ≠ [])
    (h : ∀ v ∈ items, Writes (.value v) v.compactChars) :
    Writes (.items items) (Value.compactItems items) := by
  induction items with
  | nil => exact absurd rfl hne
  | cons v items ih =>
    obtain ⟨hv, hitems⟩ := List.forall_mem_cons.mp h
    cases items with
    | nil => simpa [Value.compactItems] using Writes.item isLayout_nil hv isLayout_nil
    | cons w items =>
      rw [compactItems_cons_cons]
      simpa using Writes.items isLayout_nil hv isLayout_nil (ih (by simp) hitems)

theorem writesKey_quote (k : String) : WritesKey k (quote k ++ [':']) := by
  simpa using WritesKey.key isLayout_nil (writesString_quote k) isLayout_nil isLayout_nil

theorem writes_compactMembers {ms : Members} (hne : ms ≠ [])
    (h : ∀ m ∈ ms, Writes (.value m.2) m.2.compactChars) :
    Writes (.members ms) (Value.compactMembers ms) := by
  induction ms with
  | nil => exact absurd rfl hne
  | cons m ms ih =>
    obtain ⟨hm, hms⟩ := List.forall_mem_cons.mp h
    cases ms with
    | nil => simpa [Value.compactMembers] using Writes.member (writesKey_quote m.1) hm isLayout_nil
    | cons m' ms =>
      rw [compactMembers_cons_cons]
      simpa using Writes.members (writesKey_quote m.1) hm isLayout_nil (ih (by simp) hms)

theorem Value.IsExact.writes {v : Value} (h : v.IsExact) : Writes (.value v) v.compactChars := by
  induction v using Value.induction with
  | null => exact .null
  | bool b => exact .bool b
  | number m =>
    obtain ⟨hfits, hinteger⟩ := h m (by simp [Value.numbers])
    cases m with
    | integer m => exact .number (writesNumber_text hfits)
    | double x => exact hinteger.elim
  | string s => exact .string (writesString_quote s)
  | array items ih =>
    have hitems := fun v hv => ih v hv (Value.isExact_array.mp h v hv)
    cases items with
    | nil => exact .emptyArray isLayout_nil
    | cons v items => exact .array (writes_compactItems (by simp) hitems)
  | object ms ih =>
    have hms := fun m hm => ih m hm (Value.isExact_object.mp h m hm)
    cases ms with
    | nil => exact .emptyObject isLayout_nil
    | cons m ms => exact .object (writes_compactMembers (by simp) hms)

theorem isTextOf_compact {v : Value} (h : v.IsExact) : IsTextOf v v.compact :=
  .around isLayout_nil h.writes isLayout_nil (by simp [Value.compact])

/-- Only too deep a value is refused, and what is read has its members in order. -/
theorem read_compact {v : Value} (h : v.IsExact) :
    read v.compact = if v.depth ≤ 127 then .ok v.sorted else .error .malformed :=
  (isTextOf_compact h).read

end Logbook.Json
