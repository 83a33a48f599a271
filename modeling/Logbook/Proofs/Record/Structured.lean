import Logbook.Proofs.Json.Compact
import Logbook.Proofs.Record.Folded

/-! Records as JSON objects. The object that a record is written as has a level and a message, so
it is taken for the record it came from: nothing is folded into the metadata, and nothing that is
there is filled in. -/

namespace Logbook

open Json (Value Members)

namespace Record

/-- The members of a record in the order of their keys. -/
def sortedMembers (r : Record) : Members :=
  [("level", .string r.level.name), ("message", .string r.message),
    ("metadata", .object r.metadata), ("service", .string r.service),
    ("timestamp", .string r.timestamp)]

theorem isOrdered_sortedMembers (r : Record) : Keyed.IsOrdered r.sortedMembers := by
  have hkeys : (r.sortedMembers.map Prod.fst).Pairwise (· < ·) := by
    change ["level", "message", "metadata", "service", "timestamp"].Pairwise (· < ·)
    decide
  exact List.pairwise_map.mp hkeys

theorem sorted_toJson {r : Record} (h : Members.IsCanonical r.metadata) {members : Members}
    (hp : members.Perm r.metadata) :
    ({ r with metadata := members } : Record).toJson.sorted = .object r.sortedMembers := by
  have hmetadata := h.sorted_object hp
  have hmembers : Value.sortedMembers [("level", .string r.level.name),
      ("message", .string r.message), ("service", .string r.service),
      ("timestamp", .string r.timestamp), ("metadata", .object members)] =
      [("level", .string r.level.name), ("message", .string r.message),
        ("service", .string r.service), ("timestamp", .string r.timestamp),
        ("metadata", .object r.metadata)] := by
    simp only [Value.sortedMembers, hmetadata]
    rfl
  have hperm : [("level", Value.string r.level.name), ("message", .string r.message),
      ("service", .string r.service), ("timestamp", .string r.timestamp),
      ("metadata", .object r.metadata)].Perm r.sortedMembers := by
    apply List.Perm.cons
    apply List.Perm.cons
    exact (List.perm_append_singleton ("metadata", Value.object r.metadata)
      [("service", .string r.service), ("timestamp", .string r.timestamp)])
  rw [toJson, Value.sorted, hmembers, Keyed.ofList_perm r.isOrdered_sortedMembers hperm]

theorem ofWord_name (level : Level) : Level.ofWord level.name.toList = level := by
  cases level <;> decide

theorem name_ne_empty (level : Level) : level.name ≠ "" := by
  cases level <;> decide

theorem filled_some {text : String} (h : text ≠ "") (otherwise : String) :
    Draft.filled (some text) otherwise = text := by
  simp [Draft.filled, Option.filter, h]

/-- A record is found in an object by its texts and the metadata. -/
theorem ofMembers?_of_get? (now : Time.Instant) {members : Members} {r : Record}
    (hmessage : r.message ≠ "") (hservice : r.service ≠ "") (htimestamp : r.timestamp ≠ "")
    (h₁ : members.get? "level" = some (.string r.level.name))
    (h₂ : members.get? "message" = some (.string r.message))
    (h₃ : members.get? "service" = some (.string r.service))
    (h₄ : members.get? "timestamp" = some (.string r.timestamp))
    (hmetadata : foldedMetadata members = r.metadata) : ofMembers? now members = some r := by
  have htext (key value : String) (h : members.get? key = some (.string value))
      (hne : value ≠ "") : textMember? members key = some value := by
    simp [textMember?, h, Value.string?, hne]
  rw [ofMembers?, htext "level" r.level.name h₁ (name_ne_empty r.level),
    htext "message" r.message h₂ hmessage, htext "service" r.service h₃ hservice,
    htext "timestamp" r.timestamp h₄ htimestamp, hmetadata]
  simp [Draft.complete, filled_some hmessage, filled_some hservice, filled_some htimestamp,
    ofWord_name]

theorem ofMembers?_sortedMembers (now : Time.Instant) {r : Record} (hmessage : r.message ≠ "")
    (hservice : r.service ≠ "") (htimestamp : r.timestamp ≠ "") :
    ofMembers? now r.sortedMembers = some r := by
  have hmetadata : foldedMetadata r.sortedMembers = r.metadata :=
    foldedMetadata_of_reserved (by simp [sortedMembers, reservedKeys])
  exact ofMembers?_of_get? now hmessage hservice htimestamp rfl rfl rfl rfl hmetadata

theorem isExact_toJson {r : Record} (h : ∀ m ∈ r.metadata, m.2.IsExact) : r.toJson.IsExact := by
  intro n hn
  have hmember : n ∈ Value.memberNumbers r.metadata := by
    simpa [toJson, Value.numbers, Value.memberNumbers] using hn
  obtain ⟨m, hm, hnum⟩ := Value.mem_memberNumbers.mp hmember
  exact h m hm n hnum

/-- The record and its metadata are two levels around the values. -/
theorem depth_toJson (r : Record) : r.toJson.depth = Value.memberDepth r.metadata + 2 := by
  simp [toJson, Value.depth, Value.memberDepth]

/-- The line of a record is read as JSON unless a value of the metadata is too deep. -/
theorem json_read_compact {r : Record} (h : Members.IsCanonical r.metadata)
    (hexact : ∀ m ∈ r.metadata, m.2.IsExact) {members : Members} (hp : members.Perm r.metadata) :
    Json.read ({ r with metadata := members } : Record).toJson.compact =
      if Value.memberDepth r.metadata ≤ 125 then .ok (.object r.sortedMembers)
      else .error .malformed := by
  have hexact' : ({ r with metadata := members } : Record).toJson.IsExact :=
    isExact_toJson fun m hm => hexact m (hp.mem_iff.mp hm)
  have hdepth : ({ r with metadata := members } : Record).toJson.depth ≤ 127 ↔
      Value.memberDepth r.metadata ≤ 125 := by
    have hmembers : Value.memberDepth members ≤ 125 ↔ Value.memberDepth r.metadata ≤ 125 := by
      simp only [Value.memberDepth_le_iff, hp.mem_iff]
    rw [depth_toJson, ← hmembers]
    exact Nat.add_le_add_iff_right (n := 2)
  rw [Json.read_compact hexact', sorted_toJson h hp]
  simp only [hdepth]

end Record

end Logbook
