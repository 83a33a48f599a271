import Logbook.Json.Canonical
import Logbook.Proofs.Keyed

/-! Values by induction: what is shown of an array or object from its items or members. Sorting a
value twice is sorting it once, and what is sorted keeps its numbers and its depth. -/

namespace Logbook.Json

namespace Value

@[elab_as_elim]
theorem induction {motive : Value → Prop} (null : motive .null) (bool : ∀ b, motive (.bool b))
    (number : ∀ n, motive (.number n)) (string : ∀ s, motive (.string s))
    (array : ∀ items, (∀ v ∈ items, motive v) → motive (.array items))
    (object : ∀ members, (∀ m ∈ members, motive m.2) → motive (.object members)) (v : Value) :
    motive v :=
  @Value.rec motive (fun items => ∀ v ∈ items, motive v) (fun members => ∀ m ∈ members, motive m.2)
    (fun m => motive m.2) null bool number string array object
    (fun _ hv => nomatch hv) (fun _ _ hv hitems => List.forall_mem_cons.mpr ⟨hv, hitems⟩)
    (fun _ hm => nomatch hm) (fun _ _ hm hmembers => List.forall_mem_cons.mpr ⟨hm, hmembers⟩)
    (fun _ _ hv => hv) v

theorem sortedItems_eq (items : List Value) : sortedItems items = items.map sorted := by
  induction items with
  | nil => rfl
  | cons v items ih => rw [sortedItems, ih, List.map_cons]

theorem sortedMembers_eq (members : List (String × Value)) :
    sortedMembers members = members.map fun m => (m.1, m.2.sorted) := by
  induction members with
  | nil => rfl
  | cons m members ih => rw [sortedMembers, ih, List.map_cons]

theorem mem_itemNumbers {items : List Value} {n : Number} :
    n ∈ itemNumbers items ↔ ∃ v ∈ items, n ∈ v.numbers := by
  induction items with
  | nil => simp [itemNumbers]
  | cons v items ih => simp [itemNumbers, ih]

theorem mem_memberNumbers {members : List (String × Value)} {n : Number} :
    n ∈ memberNumbers members ↔ ∃ m ∈ members, n ∈ m.2.numbers := by
  induction members with
  | nil => simp [memberNumbers]
  | cons m members ih => simp [memberNumbers, ih]

theorem itemDepth_le_iff {items : List Value} {room : Nat} :
    itemDepth items ≤ room ↔ ∀ v ∈ items, v.depth ≤ room := by
  induction items with
  | nil => simp [itemDepth]
  | cons v items ih => simp [itemDepth, ih]

theorem memberDepth_le_iff {members : List (String × Value)} {room : Nat} :
    memberDepth members ≤ room ↔ ∀ m ∈ members, m.2.depth ≤ room := by
  induction members with
  | nil => simp [memberDepth]
  | cons m members ih => simp [memberDepth, ih]

theorem sorted_object_of_perm {members members' : List (String × Value)}
    (hordered : Keyed.IsOrdered members) (hsorted : ∀ m ∈ members, m.2.sorted = m.2)
    (hp : members'.Perm members) : (object members').sorted = object members := by
  have hsame : sortedMembers members' = members' := by
    have hid : members'.map (fun m => (m.1, m.2.sorted)) = members'.map id := by
      apply List.map_congr_left
      intro m hm
      rw [hsorted m (hp.mem_iff.mp hm)]
      rfl
    rw [sortedMembers_eq, hid, List.map_id]
  rw [sorted, hsame, Keyed.ofList_perm hordered hp]

/-- In an object that has been read, the last member under a key counts. -/
theorem get?_sorted (ms : List (String × Value)) (key : String) :
    Members.get? (Keyed.ofList (sortedMembers ms)) key =
      (ms.filter (·.1 == key)).getLast?.map fun m => m.2.sorted := by
  have hfilter : (ms.map fun m => (m.1, m.2.sorted)).filter (·.1 == key) =
      (ms.filter (·.1 == key)).map fun m => (m.1, m.2.sorted) := List.filter_map
  rw [Members.get?, Keyed.lookup_ofList, Keyed.lookup_eq_head?, List.filter_reverse,
    List.head?_reverse, sortedMembers_eq, hfilter, List.getLast?_map, Option.map_map]
  rfl

theorem nodup_keys_sortedMembers {ms : List (String × Value)} (h : (ms.map Prod.fst).Nodup) :
    ((sortedMembers ms).map Prod.fst).Nodup := by
  rw [sortedMembers_eq, List.map_map]
  exact h

/-- When no key comes twice, every member is found under its key. -/
theorem get?_sorted_eq_some_iff {ms : List (String × Value)} (h : (ms.map Prod.fst).Nodup)
    {key : String} {w : Value} : Members.get? (Keyed.ofList (sortedMembers ms)) key = some w ↔
      ∃ v, (key, v) ∈ ms ∧ v.sorted = w := by
  rw [Members.get?, Keyed.lookup_ofList_eq_some_iff (nodup_keys_sortedMembers h), sortedMembers_eq]
  simp

theorem sorted_eq_object {v : Value} {ms : List (String × Value)} (h : v.sorted = object ms) :
    ∃ own, v = object own ∧ Keyed.ofList (sortedMembers own) = ms := by
  cases v with
  | object own => exact ⟨own, rfl, object.inj h⟩
  | _ => cases h

/-- An object whose members have been put in another order is read as the same object. -/
theorem sorted_object_congr {ms ms' : List (String × Value)} (h : (ms.map Prod.fst).Nodup)
    (hp : ms.Perm ms') : (object ms).sorted = (object ms').sorted := by
  have hsorted : (sortedMembers ms).Perm (sortedMembers ms') := by
    rw [sortedMembers_eq, sortedMembers_eq]
    exact hp.map _
  rw [sorted, sorted, Keyed.ofList_eq_of_perm (nodup_keys_sortedMembers h) hsorted]

theorem memberDepth_perm {ms ms' : List (String × Value)} (hp : ms.Perm ms') :
    memberDepth ms = memberDepth ms' := by
  induction hp with
  | nil => rfl
  | cons m _ ih => rw [memberDepth, memberDepth, ih]
  | swap m n ms => simp only [memberDepth, Nat.max_left_comm]
  | trans _ _ ih ih' => rw [ih, ih']

theorem mem_sorted {members : List (String × Value)} {m : String × Value}
    (h : m ∈ Keyed.ofList (sortedMembers members)) : ∃ n ∈ members, m = (n.1, n.2.sorted) := by
  have hm := Keyed.mem_ofList h
  rw [sortedMembers_eq] at hm
  obtain ⟨n, hn, rfl⟩ := List.mem_map.mp hm
  exact ⟨n, hn, rfl⟩

theorem sorted_sorted (v : Value) : v.sorted.sorted = v.sorted := by
  induction v using induction with
  | null => rfl
  | bool b => rfl
  | number n => rfl
  | string s => rfl
  | array items ih =>
    rw [sorted, sorted, sortedItems_eq, sortedItems_eq, List.map_map]
    congr 1
    exact List.map_congr_left ih
  | object members ih =>
    rw [sorted]
    apply sorted_object_of_perm (Keyed.isOrdered_ofList _) _ (List.Perm.refl _)
    intro m hm
    obtain ⟨n, hn, rfl⟩ := mem_sorted hm
    exact ih n hn

theorem numbers_sorted {v : Value} {n : Number} (h : n ∈ v.sorted.numbers) : n ∈ v.numbers := by
  induction v using induction with
  | null => exact h
  | bool b => exact h
  | number m => exact h
  | string s => exact h
  | array items ih =>
    rw [sorted, numbers, mem_itemNumbers, sortedItems_eq] at h
    obtain ⟨v, hv, hn⟩ := h
    obtain ⟨w, hw, rfl⟩ := List.mem_map.mp hv
    rw [numbers, mem_itemNumbers]
    exact ⟨w, hw, ih w hw hn⟩
  | object members ih =>
    rw [sorted, numbers, mem_memberNumbers] at h
    obtain ⟨m, hm, hn⟩ := h
    obtain ⟨w, hw, rfl⟩ := mem_sorted hm
    rw [numbers, mem_memberNumbers]
    exact ⟨w, hw, ih w hw hn⟩

theorem depth_sorted_le (v : Value) : v.sorted.depth ≤ v.depth := by
  induction v using induction with
  | null => exact Nat.le_refl _
  | bool b => exact Nat.le_refl _
  | number m => exact Nat.le_refl _
  | string s => exact Nat.le_refl _
  | array items ih =>
    have hitems := itemDepth_le_iff.mp (Nat.le_refl (itemDepth items))
    rw [sorted, depth, depth, Nat.add_le_add_iff_right, itemDepth_le_iff, sortedItems_eq]
    intro v hv
    obtain ⟨w, hw, rfl⟩ := List.mem_map.mp hv
    exact Nat.le_trans (ih w hw) (hitems w hw)
  | object members ih =>
    have hmembers := memberDepth_le_iff.mp (Nat.le_refl (memberDepth members))
    rw [sorted, depth, depth, Nat.add_le_add_iff_right, memberDepth_le_iff]
    intro m hm
    obtain ⟨w, hw, rfl⟩ := mem_sorted hm
    exact Nat.le_trans (ih w hw) (hmembers w hw)

/-- The members of a canonical object are canonical. -/
theorem IsCanonical.members {members : List (String × Value)} (h : (object members).IsCanonical) :
    Members.IsCanonical members := by
  have hmembers : Keyed.ofList (sortedMembers members) = members := by
    have hsorted := h.sorted
    rw [Value.sorted] at hsorted
    exact Value.object.inj hsorted
  constructor
  · rw [← hmembers]
    exact Keyed.isOrdered_ofList _
  · intro m hm
    have hfits : ∀ n ∈ m.2.numbers, n.Fits :=
      fun n hn => h.fits n (mem_memberNumbers.mpr ⟨m, hm, hn⟩)
    rw [← hmembers] at hm
    obtain ⟨n, -, rfl⟩ := mem_sorted hm
    exact ⟨sorted_sorted n.2, hfits⟩

end Value

/-- Canonical members are what their object has, in whatever order they come. -/
theorem Members.IsCanonical.sorted_object {members members' : Members} (h : members.IsCanonical)
    (hp : members'.Perm members) : (Value.object members').sorted = .object members :=
  Value.sorted_object_of_perm h.ordered (fun m hm => (h.values m hm).sorted) hp

/-! ### Exact members -/

/-- A text, or an integer that fits. -/
inductive Value.IsScalar : Value → Prop where
  | string (s : String) : IsScalar (.string s)
  | integer (n : Int) (h : (Number.integer n).Fits) : IsScalar (.integer n)

/-- Members whose values are canonical and without doubles. -/
structure Members.IsExact (members : Members) : Prop where
  canonical : members.IsCanonical
  floatFree : ∀ m ∈ members, m.2.FloatFree

namespace Value.IsScalar

variable {v : Value}

theorem isCanonical (h : v.IsScalar) : v.IsCanonical := by
  cases h with
  | string s => exact ⟨rfl, by simp [numbers]⟩
  | integer n hn => exact ⟨rfl, by simpa [Value.integer, numbers] using hn⟩

theorem floatFree (h : v.IsScalar) : v.FloatFree := by
  cases h with
  | string s => simp [FloatFree, numbers]
  | integer n hn => simp [FloatFree, numbers, Value.integer, Number.IsInteger]

theorem depth_eq (h : v.IsScalar) : v.depth = 0 := by
  cases h <;> rfl

end Value.IsScalar

theorem Members.isExact_of_scalars {members : Members} (hordered : Keyed.IsOrdered members)
    (h : ∀ m ∈ members, m.2.IsScalar) : members.IsExact :=
  ⟨⟨hordered, fun m hm => (h m hm).isCanonical⟩, fun m hm => (h m hm).floatFree⟩

theorem Members.isExact_of_object {members : Members}
    (hcanonical : (Value.object members).IsCanonical) (hfree : (Value.object members).FloatFree) :
    members.IsExact :=
  ⟨hcanonical.members, fun m hm number hnumber =>
    hfree number (Value.mem_memberNumbers.mpr ⟨m, hm, hnumber⟩)⟩

end Logbook.Json
