import Logbook.Proofs.Normalizer.Cases
import Logbook.Proofs.Record.Wire

/-! The two readings of a record. A text can be read by the shape of a record, or as any object of
which the members are then looked up. The first is stricter; what it accepts without unknown keys,
and with a level in quotes, gives the same record in the second reading. -/

namespace Logbook

open Json (Value Members IsTextOf IsLayout Writes WritesChars WritesUnit isLayout_nil
  writesKey_quote writesString_quote)

namespace Record

variable {ms : Members} {r : Record}

theorem IsRecord.filter_level (h : IsRecord ms r)
    (hlevel : ∃ s, ("level", Value.string s) ∈ ms) :
    ms.filter (·.1 == "level") = [("level", .string r.level.name)] := by
  obtain ⟨v, hone, hv⟩ := h.level
  obtain ⟨s, hs⟩ := hlevel
  have hmem : ("level", Value.string s) ∈ ms.filter (·.1 == "level") := by simp [hs]
  obtain rfl : v = .string s := by simpa [hone, eq_comm] using hmem
  obtain hname | hobject := hv
  · rw [hone, hname]
  · cases hobject

theorem IsRecord.ownMetadata_sorted (h : IsRecord ms r) :
    ownMetadata (Keyed.ofList (Value.sortedMembers ms)) = r.metadata := by
  rw [ownMetadata, Value.get?_sorted]
  obtain ⟨hnone, hempty⟩ | ⟨own, hone, hsorted⟩ := h.metadata
  · rw [hnone, hempty]
    rfl
  · rw [hone]
    simp [hsorted]

theorem mem_reservedKeys_sorted (hkeys : ∀ m ∈ ms, m.1 ∈ reservedKeys) :
    ∀ m ∈ Keyed.ofList (Value.sortedMembers ms), m.1 ∈ reservedKeys := by
  intro m hm
  have hmem := Keyed.mem_ofList hm
  rw [Value.sortedMembers_eq] at hmem
  obtain ⟨m', hm', rfl⟩ := List.mem_map.mp hmem
  exact hkeys m' hm'

/-- A record of which the level is in quotes is found in the object member by member. -/
theorem IsRecord.ofMembers?_eq (h : IsRecord ms r) (hkeys : ∀ m ∈ ms, m.1 ∈ reservedKeys)
    (hlevel : ∃ s, ("level", Value.string s) ∈ ms) (hfilled : r.IsFilled) (now : Time.Instant) :
    ofMembers? now (Keyed.ofList (Value.sortedMembers ms)) = some r := by
  have hget (key x : String) (hone : ms.filter (·.1 == key) = [(key, .string x)]) :
      Members.get? (Keyed.ofList (Value.sortedMembers ms)) key = some (.string x) := by
    rw [Value.get?_sorted, hone]
    rfl
  have hmetadata := foldedMetadata_of_reserved (mem_reservedKeys_sorted hkeys)
  exact ofMembers?_of_get? now hfilled.message hfilled.service hfilled.timestamp
    (hget _ _ (h.filter_level hlevel)) (hget _ _ h.message) (hget _ _ h.service)
    (hget _ _ h.timestamp) (hmetadata.trans h.ownMetadata_sorted)

end Record

namespace Normalizer

/-- What the shape accepts is the record of the text, whatever rules there are. -/
theorem normalize_recordText {members : Members} {text : String}
    (htext : IsTextOf (.object members) text) (hkeys : ∀ m ∈ members, m.1 ∈ Record.reservedKeys)
    (hlevel : ∃ s, ("level", Value.string s) ∈ members) {r : Record}
    (hread : Record.read text = .ok r) (hfilled : r.IsFilled) (n : Normalizer)
    (now : Time.Instant) : n.normalize now text = r := by
  obtain ⟨hdepth, hrecord⟩ := (Record.read_eq_ok_iff htext hkeys).mp hread
  have hobject : Json.read text = .ok (.object (Keyed.ofList (Value.sortedMembers members))) := by
    rw [htext.read, if_pos hdepth, Value.sorted]
  rw [normalize, hobject]
  simp only [hrecord.ofMembers?_eq hkeys hlevel hfilled now, Option.getD_some]

/-! ### A text with escapes and white space -/

/-- Members out of order, and a key that comes twice in the metadata. -/
def spacedText : String :=
  "\x7b \"timestamp\":\"\\ud83d\\ude00\" ,\n\"metadata\": " ++
    "\x7b\"b\":[1,-2],\"a\":null,\"b\":3\x7d ,\"level\":\"warn\"," ++
    "\"service\":\"a\\/b\",\"message\" :\"\\u00e9\"\x7d\n"

def spacedMembers : Members :=
  [("timestamp", .string "😀"),
    ("metadata", .object [("b", .array [.integer 1, .integer (-2)]), ("a", .null),
      ("b", .integer 3)]),
    ("level", .string "warn"), ("service", .string "a/b"), ("message", .string "é")]

def spacedRecord : Record where
  level := .warn
  message := "é"
  service := "a/b"
  timestamp := "😀"
  metadata := [("a", .null), ("b", .integer 3)]

theorem isTextOf_spacedText : IsTextOf (.object spacedMembers) spacedText := by
  have hspace : IsLayout [' '] := by decide
  have hline : IsLayout ['\n'] := by decide
  have hhigh : WritesUnit 0xD83D ['d', '8', '3', 'd'] :=
    .digits (i := 13) (j := 8) (k := 3) (l := 13) rfl rfl rfl rfl
  have hlow : WritesUnit 0xDE00 ['d', 'e', '0', '0'] :=
    .digits (i := 13) (j := 14) (k := 0) (l := 0) rfl rfl rfl rfl
  have hunit : WritesUnit 'é'.toNat ['0', '0', 'e', '9'] :=
    .digits (i := 0) (j := 0) (k := 14) (l := 9) rfl rfl rfl rfl
  have hface : WritesChars "😀".toList "\\ud83d\\ude00".toList :=
    .cons (.pair hhigh hlow (by decide) (by decide) (by decide)) .nil
  have hslash : WritesChars "a/b".toList "a\\/b".toList :=
    .cons (.plain (by decide) (by decide) (by decide))
      (.cons (.letter (by decide)) (.cons (.plain (by decide) (by decide) (by decide)) .nil))
  have haccent : WritesChars "é".toList "\\u00e9".toList := .cons (.unit hunit) .nil
  have hown : (Value.object [("b", .array [.integer 1, .integer (-2)]), ("a", .null),
      ("b", .integer 3)]).IsExact := by
    rw [Value.IsExact]
    decide
  -- the members from the last one to the first
  have hmessage := Writes.member
    (.key isLayout_nil (writesString_quote "message") hspace isLayout_nil)
    (.string (.quoted haccent)) isLayout_nil
  have hservice := Writes.members (writesKey_quote "service") (.string (.quoted hslash))
    isLayout_nil hmessage
  have hlevel := Writes.members (writesKey_quote "level") (.string (writesString_quote "warn"))
    isLayout_nil hservice
  have hmetadata := Writes.members
    (.key hline (writesString_quote "metadata") isLayout_nil hspace) hown.writes hspace hlevel
  have htimestamp := Writes.members
    (.key hspace (writesString_quote "timestamp") isLayout_nil isLayout_nil)
    (.string (.quoted hface)) hspace hmetadata
  exact .around isLayout_nil (.object htimestamp) hline (by decide +kernel)

theorem isRecord_spacedMembers : Record.IsRecord spacedMembers spacedRecord where
  level := ⟨_, rfl, .inl rfl⟩
  message := rfl
  service := rfl
  timestamp := rfl
  metadata := .inr ⟨_, rfl, rfl⟩

theorem normalize_recordText_spaced :
    (IsTextOf (.object spacedMembers) spacedText ∧
        (∀ m ∈ spacedMembers, m.1 ∈ Record.reservedKeys) ∧
        Record.read spacedText = .ok spacedRecord ∧ spacedRecord.IsFilled) ∧
      builtin.normalize ⟨0, 0⟩ spacedText = spacedRecord := by
  have hkeys : ∀ m ∈ spacedMembers, m.1 ∈ Record.reservedKeys := by decide
  have hread : Record.read spacedText = .ok spacedRecord :=
    (Record.read_eq_ok_iff isTextOf_spacedText hkeys).mpr ⟨by decide, isRecord_spacedMembers⟩
  have hfilled : spacedRecord.IsFilled := ⟨by decide, by decide, by decide⟩
  exact ⟨⟨isTextOf_spacedText, hkeys, hread, hfilled⟩,
    normalize_recordText isTextOf_spacedText hkeys ⟨"warn", by simp [spacedMembers]⟩ hread hfilled
      builtin ⟨0, 0⟩⟩

end Normalizer

end Logbook
