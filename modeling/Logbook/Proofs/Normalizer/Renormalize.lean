import Logbook.Proofs.Json.Read
import Logbook.Proofs.Normalizer.Cases
import Logbook.Proofs.Normalizer.FixedPoint
import Logbook.Proofs.Rule.JsonLike
import Logbook.Proofs.Rule.Metadata

/-! Normalizing again. The record of a line is written as a line that is two levels deeper than its
metadata, and a text nests at most 127 levels. So the record comes back from its own line just in
case no value of its metadata nests more than 125 levels; a deeper one is lost, because the line is
then left to the built-in rules. -/

namespace Logbook

open Json (Value Members)

/-- The line is a JSON object that is taken for a record, before any rule is tried. -/
def Record.IsStructured (now : Time.Instant) (line : String) : Prop :=
  ∃ members r, Json.read line = .ok (.object members) ∧ Record.ofMembers? now members = some r

/-- No value of the metadata is too deep for the record's line to be read. -/
def Record.IsShallow (r : Record) : Prop := ∀ m ∈ r.metadata, m.2.depth ≤ 125

namespace Normalizer

theorem forall_mem_rules_extend {p : Rule → Prop} {custom : List Rule}
    (hbuiltin : ∀ rule ∈ builtinRules, p rule) (hcustom : ∀ rule ∈ custom, p rule) :
    ∀ rule ∈ (builtin.extend custom).rules, p rule :=
  fun rule hrule => (List.mem_append.mp hrule).elim (hbuiltin rule) (hcustom rule)

/-! ### The first record -/

theorem isExact_metadata {n : Normalizer} (hrules : ∀ rule ∈ n.rules, rule.IsExact)
    (now : Time.Instant) {line : String} (hline : ∀ v, Json.read line = .ok v → v.FloatFree) :
    Members.IsExact (n.normalize now line).metadata := by
  rcases n.normalize_cases now line with h | ⟨members, hread, hrecord⟩
  · rw [h]
    rcases n.matchRules_cases now line.toList with h | ⟨rule, hrule, m, h⟩
    · rw [h]
      exact ⟨⟨List.Pairwise.nil, by simp [guessed, Draft.complete, Draft.empty]⟩,
        by simp [guessed, Draft.complete, Draft.empty]⟩
    · rw [h]
      exact hrules rule hrule now m
  · obtain ⟨d, hd, hcomplete⟩ := ofMembers?_eq_some hrecord
    have hobject := Members.isExact_of_object (Json.read_isCanonical hread) (hline _ hread)
    rw [← hcomplete, Draft.complete, hd]
    exact Record.isExact_foldedMetadata hobject

/-! ### The second record -/

theorem depth_matchRules (custom : List Rule) (now : Time.Instant) {line : List Char}
    (h : (Rule.Leveled.jsonLike.pattern.find? line).isSome) :
    ∀ m ∈ ((builtin.extend custom).matchRules now line).metadata, m.2.depth = 0 := by
  have hsome : (builtinRules.findSome? fun rule => rule.apply now line).isSome := by
    rw [List.findSome?_isSome_iff]
    exact ⟨Rule.Leveled.jsonLike, by simp [builtinRules], by simpa [Rule.apply] using h⟩
  obtain ⟨d, hd⟩ := Option.isSome_iff_exists.mp hsome
  obtain ⟨rule, hrule, happly⟩ := List.exists_of_findSome?_eq_some hd
  obtain ⟨m, -, rfl⟩ := Option.map_eq_some_iff.mp happly
  have hmatch : (builtin.extend custom).matchRules now line = (rule.draft now m).complete now := by
    simp [matchRules, extend, builtin, List.findSome?_append, hd]
  rw [hmatch]
  intro member hmember
  exact ((Rule.hasScalars_of_mem_builtinRules hrule).scalars now m member hmember).depth_eq

theorem isStructured_iff (now : Time.Instant) {r : Record} (hfilled : r.IsFilled)
    (hr : r.metadata.IsExact) {members : Members} (hp : members.Perm r.metadata) :
    Record.IsStructured now ({ r with metadata := members } : Record).toJson.compact ↔
      r.IsShallow := by
  have hread := Record.json_read_compact hr.canonical
    (isExact_of_floatFree hr.canonical hr.floatFree) hp
  rw [Record.IsShallow, ← Value.memberDepth_le_iff, Record.IsStructured, hread]
  by_cases hd : Value.memberDepth r.metadata ≤ 125
  · have hrecord := Record.ofMembers?_sortedMembers now hfilled.message hfilled.service
      hfilled.timestamp
    simp [hd, hrecord]
  · simp [hd]

/-- The line of a record that is too deep is left to the built-in rules, which do not bring the
metadata back. -/
theorem normalize_ne_of_deep (custom : List Rule) (now : Time.Instant) {r : Record}
    (hfilled : r.IsFilled) (hr : r.metadata.IsExact) {members : Members}
    (hp : members.Perm r.metadata) (hdeep : ¬ r.IsShallow) :
    (builtin.extend custom).normalize now
      ({ r with metadata := members } : Record).toJson.compact ≠ r := by
  have hread := Record.json_read_compact hr.canonical
    (isExact_of_floatFree hr.canonical hr.floatFree) hp
  rw [if_neg (mt Value.memberDepth_le_iff.mp hdeep)] at hread
  intro heq
  rw [normalize, hread] at heq
  apply hdeep
  intro m hm
  have hfind : (Rule.Leveled.jsonLike.pattern.find?
      ({ r with metadata := members } : Record).toJson.compact.toList).isSome := by
    rw [Value.compact, String.toList_ofList]
    exact Rule.Leveled.jsonLike_find? hfilled.message
  rw [← heq] at hm
  rw [depth_matchRules custom now hfind m hm]
  exact Nat.zero_le _

/-- The metadata of a line that goes to rules which store texts and integers is not deep at all. -/
theorem isShallow_of_not_isStructured {n : Normalizer} (hrules : ∀ rule ∈ n.rules, rule.HasScalars)
    {now : Time.Instant} {line : String} (h : ¬ Record.IsStructured now line) :
    (n.normalize now line).IsShallow := by
  rcases n.normalize_cases now line with hmatched | ⟨members, hread, hrecord⟩
  · rw [hmatched]
    rcases n.matchRules_cases now line.toList with hguessed | ⟨rule, hrule, m, hdraft⟩
    · simp [hguessed, Record.IsShallow, guessed, Draft.complete, Draft.empty]
    · rw [hdraft]
      intro member hmember
      rw [((hrules rule hrule).scalars now m member hmember).depth_eq]
      exact Nat.zero_le _
  · exact absurd ⟨members, _, hread, hrecord⟩ h

/-- The metadata of an object that is a record already is too deep just in case a member that was
taken in is. -/
theorem isShallow_iff_extrasFit {now : Time.Instant} {line : String} {members : Members}
    {r : Record} (hline : ∀ v, Json.read line = .ok v → v.FloatFree)
    (hread : Json.read line = .ok (.object members))
    (hrecord : Record.ofMembers? now members = some r) :
    r.IsShallow ↔ Record.ExtrasFit members := by
  obtain ⟨d, hd, rfl⟩ := ofMembers?_eq_some hrecord
  have hexact := Members.isExact_of_object (Json.read_isCanonical hread) (hline _ hread)
  rw [Record.IsShallow, Draft.complete, hd]
  exact Record.depth_foldedMetadata_iff hexact (Json.read_depth_le hread)

/-- A record comes back from its own line, and is taken for a record there, just in case its
metadata is shallow. It may not be when the record was an object with a deep member that the
metadata took in; it always is when rules store texts and integers only. -/
theorem renormalize_iff {custom : List Rule} (hrules : ∀ rule ∈ custom, rule.IsExact)
    (now now' : Time.Instant) {line : String}
    (hline : ∀ v, Json.read line = .ok v → v.FloatFree) {r : Record}
    (hr : (builtin.extend custom).normalize now line = r) {members : Members}
    (hp : members.Perm r.metadata) :
    ((builtin.extend custom).normalize now' ({ r with metadata := members } : Record).toJson.compact
        = r ↔ r.IsShallow) ∧
      (Record.IsStructured now' ({ r with metadata := members } : Record).toJson.compact ↔
        r.IsShallow) ∧
      (∀ object, Json.read line = .ok (.object object) →
        (Record.ofMembers? now object).isSome → (r.IsShallow ↔ Record.ExtrasFit object)) ∧
      ((∀ rule ∈ custom, rule.HasScalars) → ¬ Record.IsStructured now line → r.IsShallow) := by
  have hall : ∀ rule ∈ (builtin.extend custom).rules, rule.IsExact :=
    forall_mem_rules_extend (fun rule hrule => (Rule.hasScalars_of_mem_builtinRules hrule).isExact)
      hrules
  have hmetadata : r.metadata.IsExact := hr ▸ isExact_metadata hall now hline
  have hfilled : r.IsFilled := hr ▸ isFilled_normalize _ now line
  refine ⟨⟨fun heq => ?_, fun hd => ?_⟩, isStructured_iff now' hfilled hmetadata hp, ?_, ?_⟩
  · by_contra hdeep
    exact normalize_ne_of_deep custom now' hfilled hmetadata hp hdeep heq
  · exact normalize_compact _ now' hmetadata.canonical hfilled
      (isExact_of_floatFree hmetadata.canonical hmetadata.floatFree) hd hp
  · intro object hread hsome
    obtain ⟨r', hrecord⟩ := Option.isSome_iff_exists.mp hsome
    have hr' : r = r' := by
      rw [← hr, normalize, hread]
      simp [hrecord]
    exact isShallow_iff_extrasFit hline hread (hr' ▸ hrecord)
  · intro hscalars hunstructured
    rw [← hr]
    apply isShallow_of_not_isStructured _ hunstructured
    exact forall_mem_rules_extend (fun _ => Rule.hasScalars_of_mem_builtinRules) hscalars

/-! ### A member that is one level too deep -/

/-- Arrays around a null. -/
def nested : Nat → Value
  | 0 => .null
  | n + 1 => .array [nested n]

/-- An object that is a record, with a member that the metadata takes in. -/
def nestedObject (n : Nat) : Members :=
  [("level", .string "info"), ("message", .string "x"), ("trace", nested n)]

theorem depth_nested (n : Nat) : (nested n).depth = n := by
  induction n with
  | zero => rfl
  | succ n ih => simp [nested, Value.depth, Value.itemDepth, ih]

theorem numbers_nested (n : Nat) : (nested n).numbers = [] := by
  induction n with
  | zero => rfl
  | succ n ih => simp [nested, Value.numbers, Value.itemNumbers, ih]

theorem sorted_nested (n : Nat) : (nested n).sorted = nested n := by
  induction n with
  | zero => rfl
  | succ n ih => simp [nested, Value.sorted, Value.sortedItems, ih]

theorem numbers_nestedObject (n : Nat) : (Value.object (nestedObject n)).numbers = [] := by
  simp [nestedObject, Value.numbers, Value.memberNumbers, numbers_nested]

theorem sorted_nestedObject (n : Nat) :
    (Value.object (nestedObject n)).sorted = .object (nestedObject n) := by
  have hordered : Keyed.IsOrdered (nestedObject n) := by
    have hkeys : ((nestedObject n).map Prod.fst).Pairwise (· < ·) := by
      change ["level", "message", "trace"].Pairwise (· < ·)
      decide
    exact List.pairwise_map.mp hkeys
  apply Value.sorted_object_of_perm hordered _ (List.Perm.refl _)
  simp only [nestedObject, List.forall_mem_cons]
  exact ⟨rfl, rfl, sorted_nested n, by simp⟩

/-- There is room for 126 levels inside the object. -/
theorem read_nestedObject {n : Nat} (h : n ≤ 126) :
    Json.read (Value.object (nestedObject n)).compact = .ok (.object (nestedObject n)) := by
  have hdepth : (Value.object (nestedObject n)).depth ≤ 127 := by
    simp only [nestedObject, Value.depth, Value.memberDepth, depth_nested]
    omega
  have hread := Json.read_compact (v := .object (nestedObject n))
    (by simp [Value.IsExact, numbers_nestedObject])
  rw [hread, if_pos hdepth, sorted_nestedObject]

theorem isSome_ofMembers?_nestedObject (now : Time.Instant) (n : Nat) :
    (Record.ofMembers? now (nestedObject n)).isSome := by
  simp [Record.ofMembers?, Record.textMember?, nestedObject, Members.get?, Keyed.lookup_cons,
    Value.string?, Option.filter]

theorem extrasFit_nestedObject (n : Nat) : Record.ExtrasFit (nestedObject n) ↔ n ≤ 125 := by
  simp [Record.ExtrasFit, nestedObject, Record.reservedKeys, Record.ownMetadata, Members.get?,
    Keyed.lookup_cons, depth_nested]

def workerSettings : Rule.Settings where
  name := "worker"
  pattern := "^worker-([0-9]+): (.*)$"
  enabled := true
  level := none
  message := some "$2"
  service := some "worker"
  timestamp := none
  metadata := [("worker", "$1")]

/-- With a rule of settings behind the built-in ones: at 125 levels the record comes back; at 126 a
line that is a record becomes one whose own line is not. -/
theorem renormalize_nestedObject : ∃ custom, Rule.Settings.buildAll [workerSettings] = .ok custom ∧
    (∃ r, (builtin.extend custom).normalize ⟨0, 0⟩ (Value.object (nestedObject 125)).compact = r ∧
      (builtin.extend custom).normalize ⟨0, 0⟩ r.toJson.compact = r) ∧
    Record.IsStructured ⟨0, 0⟩ (Value.object (nestedObject 126)).compact ∧
    ∃ r, (builtin.extend custom).normalize ⟨0, 0⟩ (Value.object (nestedObject 126)).compact = r ∧
      (builtin.extend custom).normalize ⟨0, 0⟩ r.toJson.compact ≠ r ∧
      ¬ Record.IsStructured ⟨0, 0⟩ r.toJson.compact := by
  have hok : (Rule.Settings.buildAll [workerSettings]).isOk := by decide +kernel
  obtain ⟨custom, hcustom⟩ : ∃ custom, Rule.Settings.buildAll [workerSettings] = .ok custom := by
    cases h : Rule.Settings.buildAll [workerSettings] with
    | ok custom => exact ⟨custom, rfl⟩
    | error refused => simp [h, Except.isOk, Except.toBool] at hok
  have hrules : ∀ rule ∈ custom, rule.IsExact :=
    fun rule hrule => (Rule.hasScalars_of_buildAll hcustom rule hrule).isExact
  have hfree (n : Nat) (hn : n ≤ 126) (v : Value)
      (hv : Json.read (Value.object (nestedObject n)).compact = .ok v) : v.FloatFree := by
    rw [read_nestedObject hn] at hv
    simp [← Except.ok.inj hv, Value.FloatFree, numbers_nestedObject]
  have hnested (n : Nat) (hn : n ≤ 126) (r : Record) (hr : (builtin.extend custom).normalize ⟨0, 0⟩
      (Value.object (nestedObject n)).compact = r) :
      ((builtin.extend custom).normalize ⟨0, 0⟩ r.toJson.compact = r ↔ n ≤ 125) ∧
        (Record.IsStructured ⟨0, 0⟩ r.toJson.compact ↔ n ≤ 125) := by
    obtain ⟨hagain, hstructured, hextras, -⟩ :=
      renormalize_iff hrules ⟨0, 0⟩ ⟨0, 0⟩ (hfree n hn) hr (List.Perm.refl _)
    have hshallow := (hextras _ (read_nestedObject hn)
      (isSome_ofMembers?_nestedObject _ n)).trans (extrasFit_nestedObject n)
    exact ⟨hagain.trans hshallow, hstructured.trans hshallow⟩
  obtain ⟨r, hr⟩ := Option.isSome_iff_exists.mp (isSome_ofMembers?_nestedObject ⟨0, 0⟩ 126)
  refine ⟨custom, hcustom, ⟨_, rfl, (hnested 125 (by decide) _ rfl).1.mpr (by decide)⟩,
    ⟨_, r, read_nestedObject (by decide), hr⟩, _, rfl, ?_, ?_⟩
  · exact mt (hnested 126 (by decide) _ rfl).1.mp (by decide)
  · exact mt (hnested 126 (by decide) _ rfl).2.mp (by decide)

end Normalizer

end Logbook
