import Logbook.Json.Reader
import Logbook.Proofs.Result

/-! One step of reading. What a reader gives it has come to in one of a few ways, and they are listed
here with all that was tested on the way; what holds of everything that is read is shown for each. -/

namespace Logbook.Json

variable {mode : Mode} {n room : Nat} {s rest : List Char}

/-! ### Numbers and other scalars -/

/-- A number has a fraction, or an exponent or more digits than are kept, or is an integer. One that
is too low for an integer becomes a double, and so does a negative zero. -/
inductive NumberRead (mode : Mode) (negative : Bool) (s : List Char) : Number → List Char → Prop where
  | fraction {ds fs tail s₁ rest : List Char} {x : Float} {significand : Nat} {power : Int}
      (hds : digits mode s = .ok (ds, '.' :: tail)) (hfs : digits mode tail = .ok (fs, s₁))
      (hx : double mode significand power s₁ = .ok (x, rest)) :
      NumberRead mode negative s (.double (if negative then -x else x)) rest
  | exponent {ds s₁ rest : List Char} {x : Float} {significand : Nat} {power : Int}
      (hds : digits mode s = .ok (ds, s₁))
      (hx : double mode significand power s₁ = .ok (x, rest)) :
      NumberRead mode negative s (.double (if negative then -x else x)) rest
  | unsigned {ds rest : List Char} (hds : digits mode s = .ok (ds, rest))
      (hpositive : negative = false) : NumberRead mode negative s (.integer (absorb 0 ds).1) rest
  | signed {ds rest : List Char} (hds : digits mode s = .ok (ds, rest)) (hnegative : negative = true)
      (hle : (absorb 0 ds).1 ≤ 0x8000000000000000) :
      NumberRead mode negative s (.integer (-(absorb 0 ds).1)) rest
  | rounded {ds rest : List Char} {x : Float} (hds : digits mode s = .ok (ds, rest))
      (hnegative : negative = true) : NumberRead mode negative s (.double (-x)) rest

theorem number_cases {negative : Bool} {m : Number} (h : number mode negative s = .ok (m, rest)) :
    NumberRead mode negative s m rest := by
  rw [number] at h
  obtain ⟨⟨ds, s₁⟩, hds, h⟩ := bind_eq_ok_iff.mp h
  dsimp only at h
  split at h
  · simp at h
  simp only [pure_eq_ok] at h
  split at h
  · obtain ⟨⟨fs, s₂⟩, hfs, h⟩ := bind_eq_ok_iff.mp h
    obtain ⟨⟨x, s₃⟩, hx, h⟩ := bind_eq_ok_iff.mp h
    obtain ⟨rfl, rfl⟩ := pair_eq_of_ok h
    exact .fraction hds hfs hx
  split at h
  · obtain ⟨⟨x, s₂⟩, hx, h⟩ := bind_eq_ok_iff.mp h
    obtain ⟨rfl, rfl⟩ := pair_eq_of_ok h
    exact .exponent hds hx
  cases negative with
  | false =>
    obtain ⟨rfl, rfl⟩ := pair_eq_of_ok h
    exact .unsigned hds rfl
  | true =>
    simp only [Bool.not_true, Bool.false_eq_true, if_false] at h
    split at h
    · next hsmall =>
      obtain ⟨rfl, rfl⟩ := pair_eq_of_ok h
      exact .signed hds rfl hsmall.2
    · obtain ⟨rfl, rfl⟩ := pair_eq_of_ok h
      exact .rounded hds rfl

/-- The first character decides what is read as a scalar. -/
inductive ScalarRead (mode : Mode) (c : Char) (s : List Char) : Value → List Char → Prop where
  | null {w rest : List Char} (h : word w s = .ok rest) : ScalarRead mode c s .null rest
  | bool {w rest : List Char} (b : Bool) (h : word w s = .ok rest) : ScalarRead mode c s (.bool b) rest
  | negative {m : Number} {rest : List Char} (h : number mode true s = .ok (m, rest)) :
      ScalarRead mode c s (.number m) rest
  | unsigned {m : Number} {rest : List Char} (h : number mode false (c :: s) = .ok (m, rest)) :
      ScalarRead mode c s (.number m) rest
  | string {text : String} {rest : List Char} (h : quoted mode s = .ok (text, rest)) :
      ScalarRead mode c s (.string text) rest

theorem scalar?_cases {c : Char} {v : Value} (h : scalar? mode c s = some (.ok (v, rest))) :
    ScalarRead mode c s v rest := by
  unfold scalar? at h
  split_ifs at h
  all_goals
    obtain ⟨x, hx, heq⟩ := map_eq_ok_iff.mp (Option.some.inj h)
    obtain ⟨rfl, rfl⟩ := Prod.mk.inj heq
  case pos => exact .null hx
  case pos => exact .bool true hx
  case pos => exact .bool false hx
  case pos => exact .negative hx
  case pos => exact .unsigned hx
  case pos => exact .string hx

/-! ### Marks between values -/

theorem opened_cases {close : Char} {isEmpty : Bool} (h : opened close s = .ok (isEmpty, rest)) :
    isEmpty = true ∧ skipSpace s = close :: rest ∨ isEmpty = false ∧ skipSpace s = rest := by
  unfold opened at h
  split at h
  · cases h
  next c tail hs =>
  split at h
  · next hc =>
    obtain ⟨rfl, rfl⟩ := pair_eq_of_ok h
    exact .inl ⟨rfl, hc ▸ hs⟩
  · obtain ⟨rfl, rfl⟩ := pair_eq_of_ok h
    exact .inr ⟨rfl, hs⟩

theorem following_cases {close : Char} {more : Bool} (h : following close s = .ok (more, rest)) :
    more = false ∧ skipSpace s = close :: rest ∨
      more = true ∧ ∃ tail, skipSpace s = ',' :: tail ∧ skipSpace tail = rest := by
  unfold following at h
  split at h
  · cases h
  next c tail hs =>
  split at h
  · next hc =>
    obtain ⟨rfl, rfl⟩ := pair_eq_of_ok h
    exact .inl ⟨rfl, hc ▸ hs⟩
  split at h
  · next hcomma =>
    split at h
    · cases h
    next d tail' hs' =>
    split at h
    · cases h
    · obtain ⟨rfl, rfl⟩ := pair_eq_of_ok h
      exact .inr ⟨rfl, tail, hcomma ▸ hs, hs'⟩
  · cases h

/-! ### Arrays and objects -/

/-- A value is a scalar, or an array or object, which there has to be room for. -/
inductive ValueRead (mode : Mode) (n room : Nat) (s : List Char) : Value → List Char → Prop where
  | scalar {c : Char} {tail rest : List Char} {v : Value} (hs : skipSpace s = c :: tail)
      (h : scalar? mode c tail = some (.ok (v, rest))) : ValueRead mode n room s v rest
  | emptyArray {tail rest : List Char} (hs : skipSpace s = '[' :: tail) (hroom : ¬ room ≤ 1)
      (hopened : opened ']' tail = .ok (true, rest)) : ValueRead mode n room s (.array []) rest
  | array {tail s₁ rest : List Char} {items : List Value} (hs : skipSpace s = '[' :: tail)
      (hroom : ¬ room ≤ 1) (hopened : opened ']' tail = .ok (false, s₁))
      (h : elements mode n (room - 1) s₁ = .ok (items, rest)) :
      ValueRead mode n room s (.array items) rest
  | emptyObject {tail rest : List Char} (hs : skipSpace s = '\x7b' :: tail) (hroom : ¬ room ≤ 1)
      (hopened : opened '\x7d' tail = .ok (true, rest)) : ValueRead mode n room s (.object []) rest
  | object {tail s₁ rest : List Char} {ms : Members} (hs : skipSpace s = '\x7b' :: tail)
      (hroom : ¬ room ≤ 1) (hopened : opened '\x7d' tail = .ok (false, s₁))
      (h : members mode n (room - 1) s₁ = .ok (ms, rest)) : ValueRead mode n room s (.object ms) rest

theorem value_cases {v : Value} (h : value mode (n + 1) room s = .ok (v, rest)) :
    ValueRead mode n room s v rest := by
  rw [value] at h
  split at h
  · cases h
  next c tail hs =>
  split at h
  · next r hr =>
    subst h
    exact .scalar hs hr
  split at h
  · next hc =>
    split at h
    · cases h
    next hroom =>
    obtain ⟨⟨isEmpty, s₁⟩, hopened, h⟩ := bind_eq_ok_iff.mp h
    cases isEmpty with
    | true =>
      obtain ⟨rfl, rfl⟩ := pair_eq_of_ok h
      exact .emptyArray (hc ▸ hs) hroom hopened
    | false =>
      obtain ⟨⟨items, s₂⟩, hitems, h⟩ := bind_eq_ok_iff.mp h
      obtain ⟨rfl, rfl⟩ := pair_eq_of_ok h
      exact .array (hc ▸ hs) hroom hopened hitems
  split at h
  · next hc =>
    split at h
    · cases h
    next hroom =>
    obtain ⟨⟨isEmpty, s₁⟩, hopened, h⟩ := bind_eq_ok_iff.mp h
    cases isEmpty with
    | true =>
      obtain ⟨rfl, rfl⟩ := pair_eq_of_ok h
      exact .emptyObject (hc ▸ hs) hroom hopened
    | false =>
      obtain ⟨⟨ms, s₂⟩, hms, h⟩ := bind_eq_ok_iff.mp h
      obtain ⟨rfl, rfl⟩ := pair_eq_of_ok h
      exact .object (hc ▸ hs) hroom hopened hms
  · cases h

/-- The items of an array: the last one, or one that others follow. -/
inductive ElementsRead (mode : Mode) (n room : Nat) (s : List Char) : List Value → List Char → Prop where
  | last {v : Value} {s₁ rest : List Char} (hv : value mode n room s = .ok (v, s₁))
      (hlast : following ']' s₁ = .ok (false, rest)) : ElementsRead mode n room s [v] rest
  | more {v : Value} {items : List Value} {s₁ s₂ rest : List Char}
      (hv : value mode n room s = .ok (v, s₁)) (hmore : following ']' s₁ = .ok (true, s₂))
      (h : elements mode n room s₂ = .ok (items, rest)) :
      ElementsRead mode n room s (v :: items) rest

theorem elements_cases {items : List Value}
    (h : elements mode (n + 1) room s = .ok (items, rest)) :
    ElementsRead mode n room s items rest := by
  rw [elements] at h
  obtain ⟨⟨v, s₁⟩, hv, h⟩ := bind_eq_ok_iff.mp h
  obtain ⟨⟨more, s₂⟩, hmore, h⟩ := bind_eq_ok_iff.mp h
  cases more with
  | false =>
    obtain ⟨rfl, rfl⟩ := pair_eq_of_ok h
    exact .last hv hmore
  | true =>
    obtain ⟨⟨items, s₃⟩, hitems, h⟩ := bind_eq_ok_iff.mp h
    obtain ⟨rfl, rfl⟩ := pair_eq_of_ok h
    exact .more hv hmore hitems

/-- The members of an object: the last one, or one that others follow. -/
inductive MembersRead (mode : Mode) (n room : Nat) (s : List Char) : Members → List Char → Prop where
  | last {k : String} {v : Value} {s₁ s₂ s₃ rest : List Char} (hk : key mode s = .ok (k, s₁))
      (hcolon : colon s₁ = .ok s₂) (hv : value mode n room s₂ = .ok (v, s₃))
      (hlast : following '\x7d' s₃ = .ok (false, rest)) : MembersRead mode n room s [(k, v)] rest
  | more {k : String} {v : Value} {ms : Members} {s₁ s₂ s₃ s₄ rest : List Char}
      (hk : key mode s = .ok (k, s₁)) (hcolon : colon s₁ = .ok s₂)
      (hv : value mode n room s₂ = .ok (v, s₃)) (hmore : following '\x7d' s₃ = .ok (true, s₄))
      (h : members mode n room s₄ = .ok (ms, rest)) : MembersRead mode n room s ((k, v) :: ms) rest

theorem members_cases {ms : Members} (h : members mode (n + 1) room s = .ok (ms, rest)) :
    MembersRead mode n room s ms rest := by
  rw [members] at h
  obtain ⟨⟨k, s₁⟩, hk, h⟩ := bind_eq_ok_iff.mp h
  obtain ⟨s₂, hcolon, h⟩ := bind_eq_ok_iff.mp h
  obtain ⟨⟨v, s₃⟩, hv, h⟩ := bind_eq_ok_iff.mp h
  obtain ⟨⟨more, s₄⟩, hmore, h⟩ := bind_eq_ok_iff.mp h
  cases more with
  | false =>
    obtain ⟨rfl, rfl⟩ := pair_eq_of_ok h
    exact .last hk hcolon hv hmore
  | true =>
    obtain ⟨⟨ms, s₅⟩, hms, h⟩ := bind_eq_ok_iff.mp h
    obtain ⟨rfl, rfl⟩ := pair_eq_of_ok h
    exact .more hk hcolon hv hmore hms

end Logbook.Json
