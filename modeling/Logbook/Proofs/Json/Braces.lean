import Logbook.Proofs.Json.Steps
import Mathlib.Data.List.DropRight

/-! Where an object begins and ends. Reading goes on from a place to a later one, so the text of an
object runs, white space apart, from an opening brace to a closing one. -/

namespace Logbook.Json

/-- Reading leaves an end of the text. -/
def LeavesSuffix {α : Type} (read : List Char → Except Fault (α × List Char)) : Prop :=
  ∀ {s rest : List Char} {a : α}, read s = .ok (a, rest) → rest <:+ s

variable {mode : Mode} {s rest : List Char}

/-! ### Words, strings and numbers -/

theorem skipSpace_suffix (s : List Char) : skipSpace s <:+ s := List.dropWhile_suffix isSpace

theorem word_suffix {w : List Char} (h : word w s = .ok rest) : rest <:+ s := by
  induction w generalizing s with
  | nil => exact (Except.ok.inj h) ▸ List.suffix_rfl
  | cons c w ih =>
    cases s with
    | nil => cases h
    | cons d s =>
      rw [word] at h
      split at h
      · exact (ih h).trans (List.suffix_cons d s)
      · cases h

theorem expect_suffix {c : Char} (h : expect c s = .ok rest) : rest <:+ s := by
  cases s with
  | nil => cases h
  | cons d s =>
    rw [expect] at h
    split at h
    · exact (Except.ok.inj h) ▸ List.suffix_cons d s
    · cases h

theorem hex4_suffix : LeavesSuffix hex4 := by
  intro s rest n h
  unfold hex4 at h
  split at h
  · next a b c d tail =>
    split at h
    · obtain rfl := snd_eq_of_ok h
      exact List.suffix_append [a, b, c, d] _
    · cases h
  · cases h

theorem unicodeEscape_suffix : LeavesSuffix (unicodeEscape mode) := by
  intro s rest c h
  rw [unicodeEscape] at h
  obtain ⟨⟨n, s₁⟩, hn, h⟩ := bind_eq_ok_iff.mp h
  have h₁ := hex4_suffix hn
  dsimp only at h
  split at h
  · obtain rfl := snd_eq_of_ok h
    exact h₁
  split at h
  · simp at h
  split at h
  · obtain rfl := snd_eq_of_ok h
    exact h₁
  obtain ⟨s₂, hs₂, h⟩ := bind_eq_ok_iff.mp h
  obtain ⟨s₃, hs₃, h⟩ := bind_eq_ok_iff.mp h
  obtain ⟨⟨m, s₄⟩, hm, h⟩ := bind_eq_ok_iff.mp h
  have h₄ := (((hex4_suffix hm).trans (expect_suffix hs₃)).trans (expect_suffix hs₂)).trans h₁
  dsimp only at h
  split at h
  · simp at h
  · obtain rfl := snd_eq_of_ok h
    exact h₄

theorem escape_suffix : LeavesSuffix (escape mode) := by
  intro s rest d h
  cases s with
  | nil => cases h
  | cons c s =>
    have hrest : rest <:+ s := by
      unfold escape at h
      dsimp only at h
      split at h
      case h_9 => exact unicodeEscape_suffix h
      case h_10 => cases h
      all_goals
        obtain rfl := snd_eq_of_ok h
        exact List.suffix_rfl
    exact hrest.trans (List.suffix_cons c s)

theorem stringBody_suffix (n : Nat) : LeavesSuffix (stringBody mode n) := by
  induction n with
  | zero => exact fun h => by cases h
  | succ n ih =>
    intro s rest chars h
    cases s with
    | nil => cases h
    | cons c s =>
      have hrest : rest <:+ s := by
        rw [stringBody] at h
        split at h
        · obtain rfl := snd_eq_of_ok h
          exact List.suffix_rfl
        split at h
        · obtain ⟨⟨d, s₁⟩, hd, h⟩ := bind_eq_ok_iff.mp h
          obtain ⟨⟨tail, s₂⟩, htail, h⟩ := bind_eq_ok_iff.mp h
          obtain rfl := snd_eq_of_ok h
          exact (ih htail).trans (escape_suffix hd)
        split at h
        · cases h
        · obtain ⟨⟨tail, s₂⟩, htail, h⟩ := bind_eq_ok_iff.mp h
          obtain rfl := snd_eq_of_ok h
          exact ih htail
      exact hrest.trans (List.suffix_cons c s)

theorem quoted_suffix : LeavesSuffix (quoted mode) := by
  intro s rest text h
  obtain ⟨⟨chars, s₁⟩, hchars, h⟩ := bind_eq_ok_iff.mp h
  obtain rfl := snd_eq_of_ok h
  exact stringBody_suffix _ hchars

theorem digits_suffix : LeavesSuffix (digits mode) := by
  intro s rest ds h
  unfold digits at h
  split at h
  · cases h
  · obtain rfl := snd_eq_of_ok h
    exact List.dropWhile_suffix Char.isDigit

theorem exponentPart_suffix : LeavesSuffix (exponentPart mode) := by
  intro s rest e h
  unfold exponentPart at h
  obtain ⟨⟨ds, s₁⟩, hds, h⟩ := bind_eq_ok_iff.mp h
  obtain rfl := snd_eq_of_ok h
  refine (digits_suffix hds).trans ?_
  split
  · exact List.suffix_cons _ _
  · exact List.suffix_cons _ _
  · exact List.suffix_rfl

theorem double_suffix (significand : Nat) (power : Int) :
    LeavesSuffix (double mode significand power) := by
  intro s rest x h
  have hfinish {r : Except Fault Float} {tail : List Char} (hok : (if mode = .pass then .ok (0.0, tail)
      else r.map fun x => (x, tail)) = Except.ok (x, rest)) : rest = tail := by
    split at hok
    · exact (snd_eq_of_ok hok).symm
    · obtain ⟨y, -, hy⟩ := map_eq_ok_iff.mp hok
      exact (Prod.mk.inj hy).2.symm
  rw [double] at h
  dsimp only at h
  split at h
  · obtain ⟨⟨⟨positive, e⟩, s₁⟩, he, h⟩ := bind_eq_ok_iff.mp h
    have hrest : rest = s₁ := by
      dsimp only at h
      split at h
      · exact hfinish h
      · exact hfinish h
    exact hrest ▸ (exponentPart_suffix he).trans (List.drop_suffix 1 s)
  · exact hfinish h ▸ List.suffix_rfl

theorem number_suffix (negative : Bool) : LeavesSuffix (number mode negative) := by
  intro s rest m h
  cases number_cases h with
  | fraction hds hfs hx =>
    have htail := (double_suffix _ _ hx).trans (digits_suffix hfs)
    exact (htail.trans (List.suffix_cons _ _)).trans (digits_suffix hds)
  | exponent hds hx => exact (double_suffix _ _ hx).trans (digits_suffix hds)
  | unsigned hds _ => exact digits_suffix hds
  | signed hds _ _ => exact digits_suffix hds
  | rounded hds _ => exact digits_suffix hds

theorem scalar?_suffix {c : Char} {v : Value} (h : scalar? mode c s = some (.ok (v, rest))) :
    rest <:+ c :: s := by
  cases scalar?_cases h with
  | null hword | bool _ hword => exact (word_suffix hword).trans (List.suffix_cons c s)
  | negative hm => exact (number_suffix true hm).trans (List.suffix_cons c s)
  | unsigned hm => exact number_suffix false hm
  | string htext => exact (quoted_suffix htext).trans (List.suffix_cons c s)

/-! ### Arrays and objects -/

theorem colon_suffix (h : colon s = .ok rest) : rest <:+ s :=
  (expect_suffix h).trans (skipSpace_suffix s)

theorem key_suffix : LeavesSuffix (key mode) := by
  intro s rest k h
  obtain ⟨s₁, hs₁, h⟩ := bind_eq_ok_iff.mp h
  exact (quoted_suffix h).trans (expect_suffix hs₁)

theorem opened_empty_eq {close : Char} (h : opened close s = .ok (true, rest)) :
    close :: rest <:+ s := by
  obtain ⟨-, hs⟩ | ⟨hfalse, -⟩ := opened_cases h
  · exact hs ▸ skipSpace_suffix s
  · cases hfalse

theorem opened_suffix (close : Char) : LeavesSuffix (opened close) := by
  intro s rest isEmpty h
  obtain ⟨rfl, -⟩ | ⟨-, hs⟩ := opened_cases h
  · exact (List.suffix_cons close rest).trans (opened_empty_eq h)
  · exact hs ▸ skipSpace_suffix s

/-- An object or array that is not closed yet goes on in front of what is left. -/
theorem following_close_eq {close : Char} (h : following close s = .ok (false, rest)) :
    close :: rest <:+ s := by
  obtain ⟨-, hs⟩ | ⟨htrue, -⟩ := following_cases h
  · exact hs ▸ skipSpace_suffix s
  · cases htrue

theorem following_suffix (close : Char) : LeavesSuffix (following close) := by
  intro s rest more h
  obtain ⟨rfl, -⟩ | ⟨-, tail, hs, hrest⟩ := following_cases h
  · exact (List.suffix_cons close rest).trans (following_close_eq h)
  · have htail : tail <:+ s := (List.suffix_cons ',' tail).trans (hs ▸ skipSpace_suffix s)
    exact (hrest ▸ skipSpace_suffix tail).trans htail

/-- Reading with some fuel goes on to a later place, for an object behind its closing brace. -/
structure ReadsOn (mode : Mode) (n : Nat) : Prop where
  value : ∀ room, LeavesSuffix (value mode n room)
  elements : ∀ room, LeavesSuffix (elements mode n room)
  members : ∀ {room s ms rest}, members mode n room s = .ok (ms, rest) → '\x7d' :: rest <:+ s

theorem readsOn_elements {n : Nat} (ih : ReadsOn mode n) (room : Nat) :
    LeavesSuffix (elements mode (n + 1) room) := by
  intro s rest items h
  cases elements_cases h with
  | last hv hlast => exact (following_suffix _ hlast).trans (ih.value room hv)
  | more hv hmore hitems =>
    exact ((ih.elements room hitems).trans (following_suffix _ hmore)).trans (ih.value room hv)

theorem readsOn_members {n : Nat} (ih : ReadsOn mode n) {room : Nat} {ms : Members}
    (h : members mode (n + 1) room s = .ok (ms, rest)) : '\x7d' :: rest <:+ s := by
  have hmember {k : String} {v : Value} {s₁ s₂ s₃ : List Char} (hk : key mode s = .ok (k, s₁))
      (hcolon : colon s₁ = .ok s₂) (hv : value mode n room s₂ = .ok (v, s₃)) : s₃ <:+ s :=
    ((ih.value room hv).trans (colon_suffix hcolon)).trans (key_suffix hk)
  cases members_cases h with
  | last hk hcolon hv hlast => exact (following_close_eq hlast).trans (hmember hk hcolon hv)
  | more hk hcolon hv hmore hms =>
    exact ((ih.members hms).trans (following_suffix _ hmore)).trans (hmember hk hcolon hv)

theorem readsOn_value {n : Nat} (ih : ReadsOn mode n) (room : Nat) :
    LeavesSuffix (value mode (n + 1) room) := by
  intro s rest v h
  -- what is read of an array or object stands behind its opening bracket
  have hinside {c : Char} {tail : List Char} (hs : skipSpace s = c :: tail) : tail <:+ s :=
    (List.suffix_cons c tail).trans (hs ▸ skipSpace_suffix s)
  cases value_cases h with
  | scalar hs hscalar => exact (scalar?_suffix hscalar).trans (hs ▸ skipSpace_suffix s)
  | emptyArray hs _ hopened | emptyObject hs _ hopened =>
    exact (opened_suffix _ hopened).trans (hinside hs)
  | array hs _ hopened hitems =>
    exact ((ih.elements _ hitems).trans (opened_suffix _ hopened)).trans (hinside hs)
  | object hs _ hopened hms =>
    have hrest := (List.suffix_cons _ _).trans (ih.members hms)
    exact (hrest.trans (opened_suffix _ hopened)).trans (hinside hs)

theorem readsOn (mode : Mode) (n : Nat) : ReadsOn mode n := by
  induction n with
  | zero => exact ⟨by simp [LeavesSuffix, value], by simp [LeavesSuffix, elements], by simp [members]⟩
  | succ n ih => exact ⟨readsOn_value ih, readsOn_elements ih, readsOn_members ih⟩

/-- No scalar is an object. -/
theorem scalar?_ne_object {c : Char} {ms : Members} :
    scalar? mode c s ≠ some (.ok (.object ms, rest)) :=
  fun h => nomatch scalar?_cases h

/-- An object begins behind white space with its opening brace, and reading it stops right behind
its closing one. -/
theorem value_object_eq {n room : Nat} {ms : Members}
    (h : value mode n room s = .ok (.object ms, rest)) :
    ∃ tail, skipSpace s = '\x7b' :: tail ∧ '\x7d' :: rest <:+ tail := by
  cases n with
  | zero => cases h
  | succ n =>
    cases value_cases h with
    | scalar _ hscalar => exact absurd hscalar scalar?_ne_object
    | emptyObject hs _ hopened => exact ⟨_, hs, opened_empty_eq hopened⟩
    | object hs _ hopened hms =>
      exact ⟨_, hs, ((readsOn mode n).members hms).trans (opened_suffix _ hopened)⟩

theorem read_object_eq {text : String} {ms : Members} (h : read text = .ok (.object ms)) :
    ∃ inner trail, skipSpace text.toList = '\x7b' :: (inner ++ '\x7d' :: trail) ∧
      ∀ c ∈ trail, isSpace c = true := by
  rw [read] at h
  obtain ⟨⟨v, s⟩, hv, h⟩ := bind_eq_ok_iff.mp h
  obtain ⟨_, hfinished, h⟩ := bind_eq_ok_iff.mp h
  have hsorted : v.sorted = .object ms := Except.ok.inj h
  cases v with
  | object ms' =>
    obtain ⟨tail, htail, inner, hinner⟩ := value_object_eq hv
    refine ⟨inner, s, by rw [htail, hinner], ?_⟩
    have hempty : (skipSpace s).isEmpty := by
      by_contra hne
      simp [finished, hne] at hfinished
    exact List.dropWhile_eq_nil_iff.mp (List.isEmpty_iff.mp hempty)
  | _ => simp [Value.sorted] at hsorted

end Logbook.Json
