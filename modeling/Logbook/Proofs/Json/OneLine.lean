import Logbook.Proofs.Json.Compact
import Logbook.Text.Lines

/-! A value written on one line is one line: control characters inside strings are escaped, and
nothing around the strings is one. -/

namespace Logbook.Json

/-- Without control characters. -/
def IsPlain (s : List Char) : Prop := ∀ c ∈ s, 0x20 ≤ c.toNat

instance (s : List Char) : Decidable (IsPlain s) :=
  List.decidableBAll (fun c : Char => 0x20 ≤ c.toNat) s

theorem isPlain_nil : IsPlain [] := by
  simp [IsPlain]

theorem isPlain_append {s t : List Char} : IsPlain (s ++ t) ↔ IsPlain s ∧ IsPlain t :=
  List.forall_mem_append

theorem isPlain_cons {c : Char} {s : List Char} :
    IsPlain (c :: s) ↔ 0x20 ≤ c.toNat ∧ IsPlain s :=
  List.forall_mem_cons

theorem toNat_hexChar : ∀ d < 16, 0x20 ≤ (Text.hexChar d).toNat := by
  decide

theorem isPlain_escaped (c : Char) : IsPlain (escaped c) := by
  unfold escaped
  split
  case h_8 =>
    by_cases hc : c.toNat < 0x20
    · have hhigh := toNat_hexChar (c.toNat / 16) (by omega)
      have hlow := toNat_hexChar (c.toNat % 16) (by omega)
      rw [if_pos hc]
      simp only [isPlain_cons, hhigh, hlow, isPlain_nil]
      decide
    · rw [if_neg hc]
      exact isPlain_cons.mpr ⟨Nat.le_of_not_lt hc, isPlain_nil⟩
  all_goals decide

theorem isPlain_quote (s : String) : IsPlain (quote s) := by
  rw [quote, isPlain_append, isPlain_cons]
  refine ⟨⟨by decide, fun d hd => ?_⟩, by decide⟩
  obtain ⟨c, -, hd⟩ := List.mem_flatMap.mp hd
  exact isPlain_escaped c d hd

theorem isPlain_integer (m : Int) : IsPlain (Number.integer m).text := by
  rw [Number.text, isPlain_append]
  constructor
  · split <;> decide
  · intro c hc
    have hdigit := Text.isDigit_iff_toNat.mp (Text.isDigit_of_mem_toDigits hc)
    omega

theorem isPlain_compactItems {items : List Value} (h : ∀ v ∈ items, IsPlain v.compactChars) :
    IsPlain (Value.compactItems items) := by
  induction items with
  | nil => exact isPlain_nil
  | cons v items ih =>
    obtain ⟨hv, hitems⟩ := List.forall_mem_cons.mp h
    cases items with
    | nil => simpa [Value.compactItems] using hv
    | cons w items =>
      rw [compactItems_cons_cons, isPlain_append, isPlain_cons]
      exact ⟨hv, by decide, ih hitems⟩

theorem isPlain_compactMembers {ms : List (String × Value)}
    (h : ∀ m ∈ ms, IsPlain m.2.compactChars) : IsPlain (Value.compactMembers ms) := by
  induction ms with
  | nil => exact isPlain_nil
  | cons m ms ih =>
    obtain ⟨hm, hms⟩ := List.forall_mem_cons.mp h
    have hmember : IsPlain (quote m.1 ++ ':' :: m.2.compactChars) :=
      isPlain_append.mpr ⟨isPlain_quote m.1, isPlain_cons.mpr ⟨by decide, hm⟩⟩
    cases ms with
    | nil => exact hmember
    | cons m' ms =>
      rw [compactMembers_cons_cons, isPlain_append, isPlain_cons]
      exact ⟨hmember, by decide, ih hms⟩

theorem isPlain_compactChars {v : Value} (h : v.IsExact) : IsPlain v.compactChars := by
  induction v using Value.induction with
  | null => decide
  | bool b => cases b <;> decide
  | number m =>
    cases m with
    | integer m => exact isPlain_integer m
    | double x => exact ((h (.double x) (by simp [Value.numbers])).2).elim
  | string s => exact isPlain_quote s
  | array items ih =>
    have hitems : IsPlain (Value.compactItems items) := isPlain_compactItems fun v hv =>
      ih v hv fun n hn => h n (Value.mem_itemNumbers.mpr ⟨v, hv, hn⟩)
    rw [Value.compactChars, isPlain_append, isPlain_cons]
    exact ⟨⟨by decide, hitems⟩, by decide⟩
  | object ms ih =>
    have hms : IsPlain (Value.compactMembers ms) := isPlain_compactMembers fun m hm =>
      ih m hm fun n hn => h n (Value.mem_memberNumbers.mpr ⟨m, hm, hn⟩)
    rw [Value.compactChars, isPlain_append, isPlain_cons]
    exact ⟨⟨by decide, hms⟩, by decide⟩

theorem isLine_compact {v : Value} (h : v.IsExact) : Text.IsLine v.compact := by
  have hplain := isPlain_compactChars h
  have htext : v.compact.toList = v.compactChars := String.toList_ofList
  constructor
  · rw [htext]
    exact fun hmem => absurd (hplain '\n' hmem) (by decide)
  · rw [htext]
    exact fun hlast => absurd (hplain '\r' (List.mem_of_getLast? hlast)) (by decide)

end Logbook.Json
