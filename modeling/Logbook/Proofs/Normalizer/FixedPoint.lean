import Logbook.Proofs.Normalizer.Cases
import Logbook.Proofs.Record.Wire

/-! Records are fixed points of normalizing. A record in which nothing is missing comes back from
its JSON value and from its JSON line, whatever rules there are, because both are accepted before
any rule is tried. -/

namespace Logbook

open Json (Value Members)

namespace Normalizer

variable {r : Record}

theorem normalizeValue_toJson (n : Normalizer) (now : Time.Instant)
    (hr : Members.IsCanonical r.metadata) (hfilled : r.IsFilled) :
    n.normalizeValue now r.toJson.sorted = r := by
  have hvalue : r.toJson.sorted = .object r.sortedMembers :=
    Record.sorted_toJson hr (List.Perm.refl r.metadata)
  rw [hvalue, normalizeValue,
    Record.ofMembers?_sortedMembers now hfilled.message hfilled.service hfilled.timestamp]
  rfl

theorem isExact_of_floatFree {members : Members} (h : Members.IsCanonical members)
    (hfree : ∀ m ∈ members, m.2.FloatFree) : ∀ m ∈ members, m.2.IsExact :=
  fun m hm => (h.values m hm).isExact (hfree m hm)

theorem normalize_compact (n : Normalizer) (now : Time.Instant)
    (hr : Members.IsCanonical r.metadata) (hfilled : r.IsFilled)
    (hexact : ∀ m ∈ r.metadata, m.2.IsExact) (hd : ∀ m ∈ r.metadata, m.2.depth ≤ 125)
    {members : Members} (hp : members.Perm r.metadata) :
    n.normalize now ({ r with metadata := members } : Record).toJson.compact = r := by
  have hmembers : Value.memberDepth r.metadata ≤ 125 := Value.memberDepth_le_iff.mpr hd
  rw [normalize, Record.json_read_compact hr hexact hp, if_pos hmembers]
  simp [Record.ofMembers?_sortedMembers now hfilled.message hfilled.service hfilled.timestamp]

/-- A record without empty texts is a fixed point, as a value and, as far as values can be read
exactly and at their depth, as a line with the metadata in any order. -/
theorem normalize_toJson (n : Normalizer) (now : Time.Instant)
    (hr : Members.IsCanonical r.metadata) (hfilled : r.IsFilled) :
    n.normalizeValue now r.toJson.sorted = r ∧
      ((∀ m ∈ r.metadata, m.2.FloatFree ∧ m.2.depth ≤ 125) →
        ∀ members : Members, members.Perm r.metadata →
          n.normalize now ({ r with metadata := members } : Record).toJson.compact = r ∧
            Record.read ({ r with metadata := members } : Record).toJson.compact = .ok r) := by
  refine ⟨normalizeValue_toJson n now hr hfilled, fun hmetadata members hp => ?_⟩
  have hexact := isExact_of_floatFree hr fun m hm => (hmetadata m hm).1
  have hd : ∀ m ∈ r.metadata, m.2.depth ≤ 125 := fun m hm => (hmetadata m hm).2
  exact ⟨normalize_compact n now hr hfilled hexact hd hp, Record.read_compact hr hp hexact hd⟩

/-- Escapes, the ends of the range of integers, and objects inside arrays. -/
def nestedRecord : Record where
  level := .warn
  message := "say \"no\"\n\\ \x01"
  service := "api"
  timestamp := "2024-02-08T10:30:00.000Z"
  metadata := [("big", .integer 18446744073709551615),
    ("small", .array [.integer (-9223372036854775808), .object [("a", .null), ("b", .bool true)]])]

theorem isCanonical_nestedRecord : Members.IsCanonical nestedRecord.metadata where
  ordered := by decide
  values := by
    intro m hm
    have hcases : m = ("big", .integer 18446744073709551615) ∨ m = ("small",
        .array [.integer (-9223372036854775808), .object [("a", .null), ("b", .bool true)]]) := by
      simpa [nestedRecord] using hm
    rcases hcases with rfl | rfl <;> exact ⟨rfl, by decide⟩

theorem normalize_toJson_nested :
    builtin.normalizeValue ⟨0, 0⟩ nestedRecord.toJson.sorted = nestedRecord ∧
      builtin.normalize ⟨0, 0⟩ ({ nestedRecord with
        metadata := nestedRecord.metadata.reverse } : Record).toJson.compact = nestedRecord := by
  obtain ⟨hvalue, hlines⟩ := normalize_toJson builtin ⟨0, 0⟩ isCanonical_nestedRecord
    ⟨by decide, by decide, by decide⟩
  exact ⟨hvalue, (hlines (by decide) _ (List.reverse_perm _)).1⟩

end Normalizer

end Logbook
