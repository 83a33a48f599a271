import Logbook.Keyed
import Mathlib.Data.List.Nodup
import Mathlib.Data.String.Basic

/-! Values in the order of their keys. What is found under the keys decides such a list, so the
order in which members come does not matter as long as no key comes twice. -/

namespace Logbook.Keyed

variable {α : Type} {l : List (String × α)}

theorem lookup_cons (j : String) (v : α) (l : List (String × α)) (key : String) :
    ((j, v) :: l).lookup key = if key = j then some v else l.lookup key := by
  by_cases h : key = j
  · simp [h]
  · have hb : (key == j) = false := by simpa using h
    simp [List.lookup_cons, hb, h]

theorem lookup_eq_some_iff (h : (l.map Prod.fst).Nodup) {key : String} {value : α} :
    l.lookup key = some value ↔ (key, value) ∈ l := by
  induction l with
  | nil => simp
  | cons m l ih =>
    obtain ⟨j, v⟩ := m
    obtain ⟨hj, hl⟩ := List.nodup_cons.mp h
    rw [lookup_cons]
    by_cases hk : key = j
    · have hn : (j, value) ∉ l := fun hm => hj (List.mem_map.mpr ⟨_, hm, rfl⟩)
      simp [hk, hn, eq_comm]
    · simp [hk, ih hl]

theorem lookup_eq_head? (l : List (String × α)) (key : String) :
    l.lookup key = (l.filter (·.1 == key)).head?.map Prod.snd := by
  induction l with
  | nil => rfl
  | cons m l ih =>
    obtain ⟨k, v⟩ := m
    rw [lookup_cons, ih]
    by_cases hk : key = k
    · simp [hk]
    · simp [hk, Ne.symm hk]

theorem lookup_insert (key : String) (value : α) (l : List (String × α)) (k : String) :
    (insert key value l).lookup k = if k = key then some value else l.lookup k := by
  induction l with
  | nil => simp [insert, lookup_cons]
  | cons m l ih =>
    obtain ⟨j, v⟩ := m
    by_cases hlt : key < j
    · simp [insert, hlt, lookup_cons]
    · by_cases heq : key = j
      · subst heq
        by_cases hk : k = key <;> simp [insert, lookup_cons, hk]
      · by_cases hk : k = j
        · simp [insert, hlt, heq, Ne.symm heq, hk]
        · simp [insert, hlt, heq, lookup_cons, hk, ih]

theorem mem_insert {key : String} {value : α} {m : String × α} (h : m ∈ insert key value l) :
    m = (key, value) ∨ m ∈ l := by
  induction l with
  | nil => simpa [insert] using h
  | cons n l ih =>
    rw [insert] at h
    split at h
    · simpa using h
    · split at h
      · rcases List.mem_cons.mp h with rfl | hm
        · exact .inl rfl
        · exact .inr (List.mem_cons_of_mem _ hm)
      · rcases List.mem_cons.mp h with rfl | hm
        · exact .inr (by simp)
        · exact (ih hm).imp_right (List.mem_cons_of_mem _)

namespace IsOrdered

theorem insert (h : IsOrdered l) (key : String) (value : α) :
    IsOrdered (Keyed.insert key value l) := by
  induction l with
  | nil => exact List.pairwise_singleton _ _
  | cons m l ih =>
    obtain ⟨j, v⟩ := m
    obtain ⟨hj, hl⟩ := List.pairwise_cons.mp h
    rw [Keyed.insert]
    by_cases hlt : key < j
    · rw [if_pos hlt]
      apply List.pairwise_cons.mpr ⟨?_, h⟩
      intro n hn
      rcases List.mem_cons.mp hn with rfl | hn
      · exact hlt
      · exact lt_trans hlt (hj n hn)
    · rw [if_neg hlt]
      by_cases heq : key = j
      · rw [if_pos heq]
        exact List.pairwise_cons.mpr ⟨heq ▸ hj, hl⟩
      · rw [if_neg heq]
        have hgt : j < key := lt_of_le_of_ne (not_lt.mp hlt) (Ne.symm heq)
        apply List.pairwise_cons.mpr ⟨?_, ih hl⟩
        intro n hn
        rcases mem_insert hn with rfl | hn
        · exact hgt
        · exact hj n hn

theorem nodup_keys (h : IsOrdered l) : (l.map Prod.fst).Nodup := by
  rw [List.Nodup, List.pairwise_map]
  exact h.imp fun hlt => ne_of_lt hlt

theorem nodup (h : IsOrdered l) : l.Nodup := h.nodup_keys.of_map

/-- What is found under every key decides the list. -/
theorem ext {a b : List (String × α)} (ha : IsOrdered a) (hb : IsOrdered b)
    (h : ∀ key, a.lookup key = b.lookup key) : a = b := by
  have hmem : ∀ m, m ∈ a ↔ m ∈ b := by
    intro m
    rw [← lookup_eq_some_iff ha.nodup_keys, ← lookup_eq_some_iff hb.nodup_keys, h]
  have hperm : a.Perm b := (List.perm_ext_iff_of_nodup ha.nodup hb.nodup).mpr hmem
  exact hperm.eq_of_pairwise (fun m n _ _ hmn hnm => absurd hmn (lt_asymm hnm)) ha hb

end IsOrdered

/-! ### Lists of members -/

theorem isOrdered_foldl_insert (members : List (String × α)) (h : IsOrdered l) :
    IsOrdered (members.foldl (fun sorted (k, v) => insert k v sorted) l) := by
  induction members generalizing l with
  | nil => exact h
  | cons m members ih => exact ih (h.insert m.1 m.2)

theorem isOrdered_ofList (members : List (String × α)) : IsOrdered (ofList members) :=
  isOrdered_foldl_insert members List.Pairwise.nil

theorem lookup_foldl_insert (members l : List (String × α)) (key : String) :
    (members.foldl (fun sorted (k, v) => insert k v sorted) l).lookup key =
      (members.reverse.lookup key).or (l.lookup key) := by
  induction members generalizing l with
  | nil => simp
  | cons m members ih =>
    obtain ⟨k, v⟩ := m
    rw [List.foldl_cons, ih, lookup_insert, List.reverse_cons, List.lookup_append, lookup_cons]
    by_cases hk : key = k <;> simp [hk]

theorem mem_ofList {members : List (String × α)} {m : String × α} (h : m ∈ ofList members) :
    m ∈ members := by
  have go : ∀ l : List (String × α),
      m ∈ members.foldl (fun sorted (k, v) => insert k v sorted) l → m ∈ members ∨ m ∈ l := by
    clear h
    induction members with
    | nil => exact fun l hm => .inr hm
    | cons n members ih =>
      intro l hm
      rcases ih _ hm with hm | hm
      · exact .inl (List.mem_cons_of_mem _ hm)
      · rcases mem_insert hm with rfl | hm
        · exact .inl (by simp)
        · exact .inr hm
  simpa using go [] h

/-- The last of equal keys counts. -/
theorem lookup_ofList (members : List (String × α)) (key : String) :
    (ofList members).lookup key = members.reverse.lookup key := by
  simp [ofList, lookup_foldl_insert]

theorem lookup_ofList_eq_some_iff {members : List (String × α)} (h : (members.map Prod.fst).Nodup)
    {key : String} {value : α} : (ofList members).lookup key = some value ↔ (key, value) ∈ members := by
  have hnodup : (members.reverse.map Prod.fst).Nodup := by
    rw [List.map_reverse]
    exact List.nodup_reverse.mpr h
  rw [lookup_ofList, lookup_eq_some_iff hnodup, List.mem_reverse]

theorem mem_ofList_iff {members : List (String × α)} (h : (members.map Prod.fst).Nodup)
    {m : String × α} : m ∈ ofList members ↔ m ∈ members := by
  rw [← lookup_ofList_eq_some_iff h, lookup_eq_some_iff (isOrdered_ofList members).nodup_keys]

/-- Ordered members come back from any order of them. -/
theorem ofList_perm {members : List (String × α)} (h : IsOrdered l) (hp : members.Perm l) :
    ofList members = l := by
  have hnodup : (members.map Prod.fst).Nodup := (hp.map Prod.fst).nodup_iff.mpr h.nodup_keys
  apply (isOrdered_ofList members).ext h
  intro key
  apply Option.ext
  intro value
  rw [lookup_ofList_eq_some_iff hnodup, lookup_eq_some_iff h.nodup_keys, hp.mem_iff]

/-- The order of members does not matter when no key comes twice. -/
theorem ofList_eq_of_perm {members members' : List (String × α)} (h : (members.map Prod.fst).Nodup)
    (hp : members.Perm members') : ofList members = ofList members' := by
  have h' : (members'.map Prod.fst).Nodup := (hp.map Prod.fst).nodup_iff.mp h
  apply (isOrdered_ofList members).ext (isOrdered_ofList members')
  intro key
  apply Option.ext
  intro value
  rw [lookup_ofList_eq_some_iff h, lookup_ofList_eq_some_iff h', hp.mem_iff]

end Logbook.Keyed
