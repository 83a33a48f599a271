import Logbook.Proofs.Normalizer.RecordText
import Logbook.Record.Folded

/-! Objects with a level and a message. Each becomes the record that its members say, and neither the
order of the members nor the layout of the text changes it. -/

namespace Logbook

open Json (Value Members IsTextOf)

namespace Record

variable {members members' : Members}

/-- The members as they have been read. -/
def readMembers (members : Members) : Members := Keyed.ofList (Value.sortedMembers members)

theorem HasUniqueKeys.get?_readMembers (h : HasUniqueKeys members) {key : String} {w : Value} :
    (readMembers members).get? key = some w ↔ ∃ v, (key, v) ∈ members ∧ v.sorted = w :=
  Value.get?_sorted_eq_some_iff h.keys

/-! ### Texts -/

theorem HasUniqueKeys.textMember?_eq_some_iff (h : HasUniqueKeys members) {key s : String} :
    textMember? (readMembers members) key = some s ↔ (key, Value.string s) ∈ members ∧ s ≠ "" := by
  have hstring : ((readMembers members).get? key).bind Value.string? = some s ↔
      (key, Value.string s) ∈ members := by
    rw [Option.bind_eq_some_iff]
    constructor
    · rintro ⟨w, hw, hs⟩
      obtain ⟨v, hv, rfl⟩ := h.get?_readMembers.mp hw
      cases v with
      | string t =>
        obtain rfl : t = s := Option.some.inj hs
        exact hv
      | _ => cases hs
    · exact fun hmem => ⟨.string s, h.get?_readMembers.mpr ⟨_, hmem, rfl⟩, rfl⟩
  rw [textMember?, Option.filter_eq_some_iff, hstring, bne_iff_ne]

theorem HasUniqueKeys.says (h : HasUniqueKeys members) (key otherwise : String) :
    Says members key otherwise (Draft.filled (textMember? (readMembers members) key) otherwise) := by
  cases htext : textMember? (readMembers members) key with
  | some s =>
    obtain ⟨hmem, hne⟩ := h.textMember?_eq_some_iff.mp htext
    rw [filled_some hne]
    exact .text hmem hne
  | none =>
    refine .missing fun s hmem => ?_
    by_contra hne
    rw [h.textMember?_eq_some_iff.mpr ⟨hmem, hne⟩] at htext
    cases htext

/-! ### Metadata -/

theorem HasUniqueKeys.get?_ownMetadata (h : HasUniqueKeys members) {key : String} {w : Value} :
    (ownMetadata (readMembers members)).get? key = some w ↔
      ∃ own v, ("metadata", Value.object own) ∈ members ∧ (key, v) ∈ own ∧ v.sorted = w := by
  constructor
  · intro hget
    rcases ownMetadata_cases (readMembers members) with hnone | hobject
    · rw [hnone] at hget
      cases hget
    · obtain ⟨v, hv, hsorted⟩ := h.get?_readMembers.mp hobject
      obtain ⟨own, rfl, hown⟩ := Value.sorted_eq_object hsorted
      rw [← hown] at hget
      obtain ⟨w', hw', hsorted'⟩ := (Value.get?_sorted_eq_some_iff (h.own own hv)).mp hget
      exact ⟨own, w', hv, hw', hsorted'⟩
  · rintro ⟨own, v, hown, hv, rfl⟩
    have hobject : (readMembers members).get? "metadata" =
        some (.object (Keyed.ofList (Value.sortedMembers own))) :=
      h.get?_readMembers.mpr ⟨.object own, hown, by rw [Value.sorted]⟩
    rw [ownMetadata, hobject]
    exact (Value.get?_sorted_eq_some_iff (h.own own hown)).mpr ⟨v, hv, rfl⟩

/-- The members are taken in one after the other, but what is found under a key does not depend on
when its member came. -/
theorem HasUniqueKeys.folds (h : HasUniqueKeys members) (key : String) :
    Folds members key ((foldedMetadata (readMembers members)).get? key) := by
  rw [get?_foldedMetadata]
  cases hfound : (ownMetadata (readMembers members)).get? key with
  | some w =>
    obtain ⟨own, v, hown, hv, rfl⟩ := h.get?_ownMetadata.mp hfound
    rw [Option.some_or]
    exact .own hown hv
  | none =>
    have hown (own : Members) (hmem : ("metadata", Value.object own) ∈ members) :
        key ∉ own.map Prod.fst := by
      intro hkey
      obtain ⟨⟨_, v⟩, hv, rfl⟩ := List.mem_map.mp hkey
      rw [h.get?_ownMetadata.mpr ⟨own, v, hmem, hv, rfl⟩] at hfound
      cases hfound
    rw [Option.none_or]
    by_cases hreserved : key ∈ reservedKeys
    · rw [if_pos hreserved]
      exact .absent hown (.inl hreserved)
    · rw [if_neg hreserved]
      cases hget : (readMembers members).get? key with
      | some w =>
        obtain ⟨v, hv, rfl⟩ := h.get?_readMembers.mp hget
        exact .extra hown hreserved hv
      | none =>
        refine .absent hown (.inr fun hkey => ?_)
        obtain ⟨⟨_, v⟩, hv, rfl⟩ := List.mem_map.mp hkey
        rw [h.get?_readMembers.mpr ⟨v, hv, rfl⟩] at hget
        cases hget

theorem isOrdered_ownMetadata (members : Members) :
    Keyed.IsOrdered (ownMetadata (readMembers members)) := by
  rcases ownMetadata_cases (readMembers members) with hnone | hobject
  · rw [hnone]
    exact List.Pairwise.nil
  · have hkeys := (Keyed.isOrdered_ofList (Value.sortedMembers members)).nodup_keys
    obtain ⟨m, -, hmem⟩ := Value.mem_sorted ((Keyed.lookup_eq_some_iff hkeys).mp hobject)
    obtain ⟨own, -, hown⟩ := Value.sorted_eq_object (Prod.mk.inj hmem).2.symm
    rw [← hown]
    exact Keyed.isOrdered_ofList _

/-! ### Order -/

/-- The metadata object is read as the same object, and then the whole object is. -/
theorem Rearranged.sorted_eq (hr : Rearranged members members') (h : HasUniqueKeys members) :
    (Value.object members).sorted = (Value.object members').sorted := by
  cases hr with
  | outside hp => exact Value.sorted_object_congr h.keys hp
  | @inside own own' others _ hp hown hp' =>
    have hmem : ("metadata", Value.object own) ∈ members := hp.mem_iff.mpr (by simp)
    have hsame : (Value.object own).sorted = (Value.object own').sorted :=
      Value.sorted_object_congr (h.own own hmem) hown
    have hkeys : ((("metadata", Value.object own') :: others).map Prod.fst).Nodup :=
      (hp.map Prod.fst).nodup_iff.mp h.keys
    calc (Value.object members).sorted
      _ = (Value.object (("metadata", .object own) :: others)).sorted :=
        Value.sorted_object_congr h.keys hp
      _ = (Value.object (("metadata", .object own') :: others)).sorted := by
        rw [Value.sorted, Value.sorted, Value.sortedMembers, Value.sortedMembers, hsame]
      _ = (Value.object members').sorted := Value.sorted_object_congr hkeys hp'.symm

theorem Rearranged.depth_eq (hr : Rearranged members members') :
    (Value.object members).depth = (Value.object members').depth := by
  rw [Value.depth, Value.depth]
  cases hr with
  | outside hp => rw [Value.memberDepth_perm hp]
  | inside hp hown hp' =>
    rw [Value.memberDepth_perm hp, Value.memberDepth_perm hp', Value.memberDepth, Value.memberDepth,
      Value.depth, Value.depth, Value.memberDepth_perm hown]

end Record

namespace Normalizer

open Record (HasUniqueKeys Rearranged readMembers)

variable {members : Members} {text : String} {now : Time.Instant}

theorem normalize_of_isTextOf (htext : IsTextOf (.object members) text)
    (hdepth : (Value.object members).depth ≤ 127) {r : Record}
    (hr : Record.ofMembers? now (readMembers members) = some r) (n : Normalizer) :
    n.normalize now text = r := by
  have hread : Json.read text = .ok (.object (readMembers members)) := by
    rw [htext.read, if_pos hdepth, Value.sorted, readMembers]
  rw [normalize, hread]
  simp only [hr, Option.getD_some]

/-- An object with a level and a message becomes the record that its members say, however they are
arranged and the text is laid out. -/
theorem normalize_folded (htext : IsTextOf (.object members) text)
    (hdepth : (Value.object members).depth ≤ 127) (h : HasUniqueKeys members) {level message : String}
    (hlevel : ("level", Value.string level) ∈ members) (hlevelText : level ≠ "")
    (hmessage : ("message", Value.string message) ∈ members) (hmessageText : message ≠ "")
    (n : Normalizer) (now : Time.Instant) :
    ((n.normalize now text).level = Level.ofWord level.toList ∧
      (n.normalize now text).message = message ∧
      Record.Says members "service" "unknown" (n.normalize now text).service ∧
      Record.Says members "timestamp" now.text (n.normalize now text).timestamp) ∧
    (Keyed.IsOrdered (n.normalize now text).metadata ∧
      ∀ key, Record.Folds members key ((n.normalize now text).metadata.get? key)) ∧
    ∀ members' text', Rearranged members members' → IsTextOf (.object members') text' →
      n.normalize now text' = n.normalize now text := by
  have hrecord : Record.ofMembers? now (readMembers members) = some (Draft.complete now
      { level := Level.ofWord level.toList
        message
        service := Record.textMember? (readMembers members) "service"
        timestamp := Record.textMember? (readMembers members) "timestamp"
        metadata := Record.foldedMetadata (readMembers members) }) := by
    rw [Record.ofMembers?, h.textMember?_eq_some_iff.mpr ⟨hlevel, hlevelText⟩,
      h.textMember?_eq_some_iff.mpr ⟨hmessage, hmessageText⟩]
    rfl
  rw [normalize_of_isTextOf htext hdepth hrecord]
  refine ⟨⟨rfl, Record.filled_some hmessageText _, h.says _ _, h.says _ _⟩,
    ⟨Record.isOrdered_foldedMetadata (Record.isOrdered_ownMetadata members), h.folds⟩, ?_⟩
  intro members' text' hr htext'
  have hsame : readMembers members = readMembers members' := Value.object.inj (hr.sorted_eq h)
  rw [hr.depth_eq] at hdepth
  exact normalize_of_isTextOf htext' hdepth ((congrArg _ hsame).symm.trans hrecord) n

/-- A user in the metadata object and another one outside, and a service that is no text. -/
def userMembers : Members :=
  [("user", .integer 7), ("level", .string "warn"), ("service", .bool true),
    ("metadata", .object [("user", .string "ann"), ("host", .null)]), ("message", .string "again")]

def userText : String :=
  "\x7b\"user\":7,\"level\":\"warn\",\"service\":true," ++
    "\"metadata\":\x7b\"user\":\"ann\",\"host\":null\x7d,\"message\":\"again\"\x7d"

/-- From the last one to the first. -/
def rearrangedMembers : Members :=
  [("message", .string "again"), ("metadata", .object [("host", .null), ("user", .string "ann")]),
    ("service", .bool true), ("level", .string "warn"), ("user", .integer 7)]

def rearrangedText : String :=
  "\t\x7b \"message\" : \"again\" ,\"metadata\":\x7b\"host\":null,\"user\":\"ann\"\x7d," ++
    "\"service\":true,\"level\":\"warn\",\"user\":7\x7d"

theorem isTextOf_userText : IsTextOf (.object userMembers) userText := by
  have hexact : (Value.object userMembers).IsExact := by
    rw [Value.IsExact]
    decide
  have hcompact : (Value.object userMembers).compact = userText := by decide
  rw [← hcompact]
  exact Json.isTextOf_compact hexact

theorem isTextOf_rearrangedText : IsTextOf (.object rearrangedMembers) rearrangedText := by
  have hspace : Json.IsLayout [' '] := by decide
  have htab : Json.IsLayout ['\t'] := by decide
  have hown : (Value.object [("host", .null), ("user", .string "ann")]).IsExact := by
    rw [Value.IsExact]
    decide
  have hnumber : (Value.integer 7).IsExact := by
    rw [Value.IsExact]
    decide
  -- the members from the last one to the first
  have huser := Json.Writes.member (Json.writesKey_quote "user") hnumber.writes Json.isLayout_nil
  have hlevel := Json.Writes.members (Json.writesKey_quote "level")
    (.string (Json.writesString_quote "warn")) Json.isLayout_nil huser
  have hservice := Json.Writes.members (Json.writesKey_quote "service") (.bool true)
    Json.isLayout_nil hlevel
  have hmetadata := Json.Writes.members (Json.writesKey_quote "metadata") hown.writes Json.isLayout_nil
    hservice
  have hmessage := Json.Writes.members
    (.key hspace (Json.writesString_quote "message") hspace hspace)
    (.string (Json.writesString_quote "again")) hspace hmetadata
  exact .around htab (.object hmessage) Json.isLayout_nil (by decide)

theorem normalize_folded_user :
    (IsTextOf (.object userMembers) userText ∧ HasUniqueKeys userMembers ∧
        Rearranged userMembers rearrangedMembers ∧
        IsTextOf (.object rearrangedMembers) rearrangedText) ∧
      ((builtin.normalize ⟨0, 0⟩ userText).service = "unknown" ∧
        (builtin.normalize ⟨0, 0⟩ userText).metadata.get? "user" = some (.string "ann")) ∧
      builtin.normalize ⟨0, 0⟩ rearrangedText = builtin.normalize ⟨0, 0⟩ userText := by
  have hunique : HasUniqueKeys userMembers := by
    refine ⟨by decide, fun own hown => ?_⟩
    obtain rfl : own = [("user", .string "ann"), ("host", .null)] := by simpa [userMembers] using hown
    decide
  have hrearranged : Rearranged userMembers rearrangedMembers := by
    have hown := (List.reverse_perm [("user", Value.string "ann"), ("host", .null)]).symm
    have hmiddle (own : Members) : List.Perm [("user", Value.integer 7), ("level", .string "warn"),
        ("service", .bool true), ("metadata", .object own), ("message", .string "again")]
        [("metadata", .object own), ("user", .integer 7), ("level", .string "warn"),
          ("service", .bool true), ("message", .string "again")] :=
      @List.perm_middle _ _ [_, _, _] _
    exact .inside (hmiddle _) hown ((List.reverse_perm _).trans (hmiddle _))
  have hlevel : ("level", Value.string "warn") ∈ userMembers := by simp [userMembers]
  have hmessage : ("message", Value.string "again") ∈ userMembers := by simp [userMembers]
  obtain ⟨⟨-, -, hservice, -⟩, ⟨-, hfolds⟩, hsame⟩ := normalize_folded isTextOf_userText (by decide)
    hunique hlevel (by decide) hmessage (by decide) builtin ⟨0, 0⟩
  refine ⟨⟨isTextOf_userText, hunique, hrearranged, isTextOf_rearrangedText⟩, ⟨?_, ?_⟩,
    hsame _ _ hrearranged isTextOf_rearrangedText⟩
  · generalize (builtin.normalize ⟨0, 0⟩ userText).service = service at hservice
    cases hservice with
    | text h _ => simp [userMembers] at h
    | missing _ => rfl
  · have huser := hfolds "user"
    generalize (builtin.normalize ⟨0, 0⟩ userText).metadata.get? "user" = value at huser
    have hmetadata : ("metadata", Value.object [("user", .string "ann"), ("host", .null)]) ∈
        userMembers := by
      simp [userMembers]
    cases huser with
    | @own own v hown h =>
      obtain rfl : own = [("user", .string "ann"), ("host", .null)] := by simpa [userMembers] using hown
      obtain rfl : v = .string "ann" := by simpa using h
      rfl
    | extra hown _ _ => exact absurd (by simp) (hown _ hmetadata)
    | absent hown _ => exact absurd (by simp) (hown _ hmetadata)

end Normalizer

end Logbook
