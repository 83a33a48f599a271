import Logbook.Normalizer
import Logbook.Proofs.Json.Read

/-! The metadata of an object that is taken for a record. A member of the metadata object always
stays; a member of the object itself is taken in when its key has no meaning of its own and the
metadata object does not have it. So the metadata is found key by key, and a value that was taken
in lies one level deeper than before. -/

namespace Logbook

open Json (Value Members)

namespace Record

theorem get?_foldMember (found : Members) (m : String × Value) (key : String) :
    (foldMember found m).get? key =
      (found.get? key).or (if key ∉ reservedKeys ∧ key = m.1 then some m.2 else none) := by
  rw [foldMember]
  by_cases hkey : key = m.1
  · subst hkey
    split
    · next h =>
      rcases h with hreserved | hfound
      · simp [hreserved]
      · obtain ⟨value, hvalue⟩ := Option.isSome_iff_exists.mp hfound
        simp [hvalue]
    · next h =>
      obtain ⟨hreserved, hfound⟩ := not_or.mp h
      have hnone : found.get? m.1 = none := Option.not_isSome_iff_eq_none.mp hfound
      rw [Members.get?, Keyed.lookup_insert]
      simp [hnone, hreserved]
  · have hother : Members.get? (Keyed.insert m.1 m.2 found) key = found.get? key := by
      rw [Members.get?, Keyed.lookup_insert, if_neg hkey, Members.get?]
    split <;> simp [hkey, hother]

theorem get?_foldl_foldMember (l found : Members) (key : String) :
    (l.foldl foldMember found).get? key =
      (found.get? key).or (if key ∈ reservedKeys then none else l.get? key) := by
  induction l generalizing found with
  | nil => simp [Members.get?]
  | cons m l ih =>
    obtain ⟨j, v⟩ := m
    rw [List.foldl_cons, ih, get?_foldMember, Members.get?, Members.get?, Members.get?,
      Keyed.lookup_cons]
    by_cases hreserved : key ∈ reservedKeys
    · simp [hreserved]
    · by_cases hkey : key = j
      · subst hkey
        simp [hreserved]
      · simp [hreserved, hkey]

/-- Key by key, the metadata object comes before the object. -/
theorem get?_foldedMetadata (members : Members) (key : String) :
    (foldedMetadata members).get? key = ((ownMetadata members).get? key).or
      (if key ∈ reservedKeys then none else members.get? key) :=
  get?_foldl_foldMember members (ownMetadata members) key

theorem isOrdered_foldedMetadata {members : Members}
    (h : Keyed.IsOrdered (ownMetadata members)) : Keyed.IsOrdered (foldedMetadata members) := by
  have hfold : ∀ l found : Members, Keyed.IsOrdered found →
      Keyed.IsOrdered (l.foldl foldMember found) := by
    intro l
    induction l with
    | nil => exact fun _ hfound => hfound
    | cons m l ih =>
      intro found hfound
      apply ih
      rw [foldMember]
      split
      · exact hfound
      · exact hfound.insert m.1 m.2
  exact hfold members _ h

theorem mem_foldedMetadata {members : Members} (hmembers : Keyed.IsOrdered members)
    (hown : Keyed.IsOrdered (ownMetadata members)) {m : String × Value} :
    m ∈ foldedMetadata members ↔ m ∈ ownMetadata members ∨
      m ∈ members ∧ m.1 ∉ reservedKeys ∧ (ownMetadata members).get? m.1 = none := by
  obtain ⟨key, value⟩ := m
  have hget := get?_foldedMetadata members key
  simp only [Members.get?] at hget
  rw [← Keyed.lookup_eq_some_iff (isOrdered_foldedMetadata hown).nodup_keys,
    ← Keyed.lookup_eq_some_iff hown.nodup_keys, ← Keyed.lookup_eq_some_iff hmembers.nodup_keys,
    hget, Members.get?]
  cases hfound : (ownMetadata members).lookup key with
  | some w => simp
  | none =>
    by_cases hreserved : key ∈ reservedKeys <;> simp [hreserved]

/-- When every key has a meaning of its own, the metadata object is all of the metadata. -/
theorem foldedMetadata_of_reserved {members : Members} (h : ∀ m ∈ members, m.1 ∈ reservedKeys) :
    foldedMetadata members = ownMetadata members := by
  have hfold : ∀ l found : Members, (∀ m ∈ l, m.1 ∈ reservedKeys) →
      l.foldl foldMember found = found := by
    intro l
    induction l with
    | nil => exact fun _ _ => rfl
    | cons m l ih =>
      intro found hl
      rw [List.foldl_cons, foldMember, if_pos (.inl (hl m (by simp)))]
      exact ih found fun n hn => hl n (by simp [hn])
  exact hfold members _ h

/-! ### Objects that are read -/

/-- The metadata object is the value under its key, or there is none. -/
theorem ownMetadata_cases (members : Members) :
    ownMetadata members = [] ∨
      members.get? "metadata" = some (.object (ownMetadata members)) := by
  rw [ownMetadata]
  split
  · next own hget => exact .inr hget
  · exact .inl rfl

theorem isExact_ownMetadata {members : Members} (h : members.IsExact) :
    Members.IsExact (ownMetadata members) := by
  rcases ownMetadata_cases members with hnone | hget
  · rw [hnone]
    exact ⟨⟨List.Pairwise.nil, by simp⟩, by simp⟩
  · have hmem := (Keyed.lookup_eq_some_iff h.canonical.ordered.nodup_keys).mp hget
    exact Members.isExact_of_object (h.canonical.values _ hmem) (h.floatFree _ hmem)

theorem isExact_foldedMetadata {members : Members} (h : members.IsExact) :
    Members.IsExact (foldedMetadata members) := by
  have hown := isExact_ownMetadata h
  have hmem (m : String × Value) (hm : m ∈ foldedMetadata members) :
      m.2.IsCanonical ∧ m.2.FloatFree := by
    rcases (mem_foldedMetadata h.canonical.ordered hown.canonical.ordered).mp hm with hm | ⟨hm, -⟩
    · exact ⟨hown.canonical.values m hm, hown.floatFree m hm⟩
    · exact ⟨h.canonical.values m hm, h.floatFree m hm⟩
  exact ⟨⟨isOrdered_foldedMetadata hown.canonical.ordered, fun m hm => (hmem m hm).1⟩,
    fun m hm => (hmem m hm).2⟩

/-- The depth left to a value that is taken into the metadata. -/
def ExtrasFit (members : Members) : Prop :=
  ∀ m ∈ members, m.1 ∉ reservedKeys → (ownMetadata members).get? m.1 = none → m.2.depth ≤ 125

/-- In an object that has been read, only a member that was taken in can be too deep: what the
metadata object has already lay two levels deep. -/
theorem depth_foldedMetadata_iff {members : Members} (h : members.IsExact)
    (hdepth : (Value.object members).depth ≤ 127) :
    (∀ m ∈ foldedMetadata members, m.2.depth ≤ 125) ↔ ExtrasFit members := by
  have hown := isExact_ownMetadata h
  have howndepth : ∀ m ∈ ownMetadata members, m.2.depth ≤ 125 := by
    rcases ownMetadata_cases members with hnone | hget
    · simp [hnone]
    · have hmem := (Keyed.lookup_eq_some_iff h.canonical.ordered.nodup_keys).mp hget
      have hmembers : Value.memberDepth members ≤ 126 := by
        rw [Value.depth] at hdepth
        omega
      have hobject : (Value.object (ownMetadata members)).depth ≤ 126 :=
        Value.memberDepth_le_iff.mp hmembers _ hmem
      apply Value.memberDepth_le_iff.mp
      rw [Value.depth] at hobject
      omega
  simp only [mem_foldedMetadata h.canonical.ordered hown.canonical.ordered]
  constructor
  · exact fun hall m hm hreserved hnone => hall m (.inr ⟨hm, hreserved, hnone⟩)
  · rintro hall m (hm | ⟨hm, hreserved, hnone⟩)
    · exact howndepth m hm
    · exact hall m hm hreserved hnone

end Record

end Logbook
