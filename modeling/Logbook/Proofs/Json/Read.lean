import Logbook.Proofs.Json.Steps
import Logbook.Proofs.Json.Value

/-! What is read is canonical: an integer that does not fit is read as a double or refused, and the
members of the objects are put in order in the end. Nor is it deeper than there is room for. -/

namespace Logbook.Json

theorem absorb_lt {n : Nat} (h : n < UInt64.size) (ds : List Char) :
    (absorb n ds).1 < UInt64.size := by
  induction ds generalizing n with
  | nil => exact h
  | cons d ds ih =>
    rw [absorb]
    split
    · next hm => exact ih hm
    · exact h

theorem number_fits {mode : Mode} {negative : Bool} {s rest : List Char} {m : Number}
    (h : number mode negative s = .ok (m, rest)) : m.Fits := by
  have hlt (ds : List Char) : (absorb 0 ds).1 < 2 ^ 64 := absorb_lt (by decide) ds
  cases number_cases h with
  | fraction | exponent | rounded => trivial
  | @unsigned ds _ _ _ =>
    have := hlt ds
    rw [Number.Fits]
    omega
  | signed _ _ hle =>
    rw [Number.Fits]
    omega

/-- The numbers fit, and so does the depth; one level of the room is never entered. -/
def Value.FitsRoom (room : Nat) (v : Value) : Prop :=
  (∀ m ∈ v.numbers, m.Fits) ∧ v.depth ≤ room - 1

theorem fitsRoom_of_plain {v : Value} (hnumbers : v.numbers = []) (hdepth : v.depth = 0)
    (room : Nat) : v.FitsRoom room := by
  simp [Value.FitsRoom, hnumbers, hdepth]

theorem fitsRoom_number {mode : Mode} {negative : Bool} {s rest : List Char} {m : Number}
    (h : number mode negative s = .ok (m, rest)) (room : Nat) :
    (Value.number m).FitsRoom room :=
  ⟨by simpa [Value.numbers] using number_fits h, Nat.zero_le _⟩

theorem scalar?_fitsRoom {mode : Mode} {c : Char} {s rest : List Char} {v : Value}
    (h : scalar? mode c s = some (.ok (v, rest))) (room : Nat) : v.FitsRoom room := by
  cases scalar?_cases h with
  | null | bool | string => exact fitsRoom_of_plain rfl rfl room
  | negative hm | unsigned hm => exact fitsRoom_number hm room

/-- All that is read with some fuel fits. -/
structure ReadFits (n : Nat) : Prop where
  value : ∀ {room s v rest}, value .use n room s = .ok (v, rest) → v.FitsRoom room
  elements : ∀ {room s items rest}, elements .use n room s = .ok (items, rest) →
    ∀ v ∈ items, v.FitsRoom room
  members : ∀ {room s ms rest}, members .use n room s = .ok (ms, rest) →
    ∀ m ∈ ms, m.2.FitsRoom room

theorem readFits_elements {n : Nat} (ih : ReadFits n) {room : Nat} {s rest : List Char}
    {items : List Value} (h : elements .use (n + 1) room s = .ok (items, rest)) :
    ∀ v ∈ items, v.FitsRoom room := by
  cases elements_cases h with
  | last hv _ => simpa using ih.value hv
  | more hv _ hitems => exact List.forall_mem_cons.mpr ⟨ih.value hv, ih.elements hitems⟩

theorem readFits_members {n : Nat} (ih : ReadFits n) {room : Nat} {s rest : List Char}
    {ms : Members} (h : members .use (n + 1) room s = .ok (ms, rest)) :
    ∀ m ∈ ms, m.2.FitsRoom room := by
  cases members_cases h with
  | last _ _ hv _ => simpa using ih.value hv
  | more _ _ hv _ hms => exact List.forall_mem_cons.mpr ⟨ih.value hv, ih.members hms⟩

theorem fitsRoom_array {room : Nat} (hroom : ¬ room ≤ 1) {items : List Value}
    (h : ∀ v ∈ items, v.FitsRoom (room - 1)) : (Value.array items).FitsRoom room := by
  constructor
  · intro m hm
    obtain ⟨v, hv, hmv⟩ := Value.mem_itemNumbers.mp hm
    exact (h v hv).1 m hmv
  · have hdepth : Value.itemDepth items ≤ room - 1 - 1 :=
      Value.itemDepth_le_iff.mpr fun v hv => (h v hv).2
    rw [Value.depth]
    omega

theorem fitsRoom_object {room : Nat} (hroom : ¬ room ≤ 1) {ms : Members}
    (h : ∀ m ∈ ms, m.2.FitsRoom (room - 1)) : (Value.object ms).FitsRoom room := by
  constructor
  · intro number hnumber
    obtain ⟨m, hm, hmv⟩ := Value.mem_memberNumbers.mp hnumber
    exact (h m hm).1 number hmv
  · have hdepth : Value.memberDepth ms ≤ room - 1 - 1 :=
      Value.memberDepth_le_iff.mpr fun m hm => (h m hm).2
    rw [Value.depth]
    omega

theorem readFits_value {n : Nat} (ih : ReadFits n) {room : Nat} {s rest : List Char} {v : Value}
    (h : value .use (n + 1) room s = .ok (v, rest)) : v.FitsRoom room := by
  cases value_cases h with
  | scalar _ hscalar => exact scalar?_fitsRoom hscalar room
  | emptyArray _ hroom _ => exact fitsRoom_array hroom (by simp)
  | array _ hroom _ hitems => exact fitsRoom_array hroom (ih.elements hitems)
  | emptyObject _ hroom _ => exact fitsRoom_object hroom (by simp)
  | object _ hroom _ hms => exact fitsRoom_object hroom (ih.members hms)

theorem readFits (n : Nat) : ReadFits n := by
  induction n with
  | zero => exact ⟨by simp [value], by simp [elements], by simp [members]⟩
  | succ n ih => exact ⟨readFits_value ih, readFits_elements ih, readFits_members ih⟩

/-- A value that is read is the sorted form of one that fits. -/
theorem read_eq_ok {text : String} {v : Value} (h : read text = .ok v) :
    ∃ w : Value, v = w.sorted ∧ w.FitsRoom depthRoom := by
  rw [read] at h
  obtain ⟨⟨w, s⟩, hw, hfinished⟩ := bind_eq_ok_iff.mp h
  obtain ⟨-, -, hv⟩ := bind_eq_ok_iff.mp hfinished
  simp only [pure_eq_ok, Except.ok.injEq] at hv
  exact ⟨w, hv.symm, (readFits _).value hw⟩

theorem read_isCanonical {text : String} {v : Value} (h : read text = .ok v) : v.IsCanonical := by
  obtain ⟨w, rfl, hfits, -⟩ := read_eq_ok h
  exact ⟨w.sorted_sorted, fun m hm => hfits m (Value.numbers_sorted hm)⟩

theorem read_depth_le {text : String} {v : Value} (h : read text = .ok v) : v.depth ≤ 127 := by
  obtain ⟨w, rfl, -, hdepth⟩ := read_eq_ok h
  exact Nat.le_trans w.depth_sorted_le hdepth

end Logbook.Json
