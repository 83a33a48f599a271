import Logbook.Proofs.Normalizer.Cases
import Logbook.Proofs.Text.Blank

/-! Rules that are registered stand behind those there are. They see only what was not recognized
before: what is no record already and matches no earlier rule. There the first of them that matches
decides, and the level is guessed if none does. -/

namespace Logbook

open Json (Value Members)
open Text (isBlank)

/-- The pattern matches somewhere in the text. -/
def Rule.Matches (r : Rule) (text : List Char) : Prop := (r.pattern.find? text).isSome

instance (r : Rule) (text : List Char) : Decidable (r.Matches text) :=
  inferInstanceAs (Decidable (_ = true))

namespace Record

/-- An object with a level and a message, both texts that are not empty. -/
structure HasLevelAndMessage (members : Members) : Prop where
  level : ∃ s, members.get? "level" = some (.string s) ∧ s ≠ ""
  message : ∃ s, members.get? "message" = some (.string s) ∧ s ≠ ""

theorem isSome_textMember?_iff {members : Members} {key : String} :
    (textMember? members key).isSome ↔
      ∃ s, members.get? key = some (.string s) ∧ s ≠ "" := by
  rw [textMember?]
  cases members.get? key with
  | none => simp
  | some v => cases v <;> simp [Value.string?, Option.filter]

theorem isSome_ofMembers?_iff (now : Time.Instant) {members : Members} :
    (ofMembers? now members).isSome ↔ HasLevelAndMessage members := by
  have hboth : (ofMembers? now members).isSome ↔
      (textMember? members "level").isSome ∧ (textMember? members "message").isSome := by
    rw [ofMembers?]
    cases textMember? members "level" <;> cases textMember? members "message" <;> simp
  rw [hboth, isSome_textMember?_iff, isSome_textMember?_iff]
  exact ⟨fun h => ⟨h.1, h.2⟩, fun h => ⟨h.level, h.message⟩⟩

end Record

namespace Normalizer

/-! ### Inputs -/

/-- What can be normalized. -/
inductive Input where
  | line (text : String)
  | value (v : Value)
  | bytes (b : List UInt8)

/-- The object that a line writes. -/
def lineObject? (line : String) : Option Members :=
  match Json.read line with
  | .ok (.object members) => some members
  | _ => none

namespace Input

/-- The object that an input is or writes. A text is a line, also as a value. -/
def object? : Input → Option Members
  | line text => lineObject? text
  | value (.object members) => some members
  | value (.string text) => lineObject? text
  | value _ => none
  | bytes b => lineObject? (Text.Utf8.decodeLossy b)

/-- The text that the rules are tried on. -/
def text : Input → List Char
  | line text => text.toList
  | value (.string text) => text.toList
  | value v => v.compactChars
  | bytes b => (Text.Utf8.decodeLossy b).toList

/-- A record already. -/
def IsStructured (i : Input) : Prop :=
  ∃ members, i.object? = some members ∧ Record.HasLevelAndMessage members

/-- A record already, or matched by a rule. -/
def IsRecognized (i : Input) (n : Normalizer) : Prop :=
  i.IsStructured ∨ ∃ rule ∈ n.rules, rule.Matches i.text

end Input

/-- The record of an input, through the function for its kind. -/
def record (n : Normalizer) (now : Time.Instant) : Input → Record
  | .line text => n.normalize now text
  | .value v => n.normalizeValue now v
  | .bytes b => n.normalizeBytes now b

theorem normalize_eq (n : Normalizer) (now : Time.Instant) (line : String) :
    n.normalize now line =
      ((lineObject? line).bind (Record.ofMembers? now)).getD (n.matchRules now line.toList) := by
  rw [normalize, lineObject?]
  cases Json.read line with
  | error fault => rfl
  | ok v => cases v <;> rfl

/-- Whatever the input, the object is tried first and then the rules. -/
theorem record_eq (n : Normalizer) (now : Time.Instant) (i : Input) :
    n.record now i = (i.object?.bind (Record.ofMembers? now)).getD (n.matchRules now i.text) := by
  cases i with
  | line text => exact n.normalize_eq now text
  | bytes b => exact n.normalize_eq now _
  | value v =>
    cases v with
    | string text => exact n.normalize_eq now text
    | _ => rfl

theorem isStructured_iff_isSome {i : Input} (now : Time.Instant) :
    i.IsStructured ↔ (i.object?.bind (Record.ofMembers? now)).isSome := by
  rw [Input.IsStructured]
  cases i.object? with
  | none => simp
  | some members => simp [Record.isSome_ofMembers?_iff]

/-! ### The first rule that matches -/

section MatchRules

variable {n : Normalizer} (now : Time.Instant) {text : List Char}

theorem findSome?_apply_eq_none_iff {rules : List Rule} :
    (rules.findSome? fun rule => rule.apply now text) = none ↔
      ∀ rule ∈ rules, ¬ rule.Matches text := by
  simp [List.findSome?_eq_none_iff, Rule.apply, Rule.Matches]

/-- A rule that matches keeps those behind it from being tried. -/
theorem matchRules_extend_of_matches (custom : List Rule)
    (h : ∃ rule ∈ n.rules, rule.Matches text) :
    (n.extend custom).matchRules now text = n.matchRules now text := by
  obtain ⟨rule, hrule, hmatches⟩ := h
  have hne : (n.rules.findSome? fun rule => rule.apply now text) ≠ none :=
    fun hnone => (findSome?_apply_eq_none_iff now).mp hnone rule hrule hmatches
  obtain ⟨d, hd⟩ := Option.ne_none_iff_exists'.mp hne
  simp only [matchRules, extend, List.findSome?_append, hd, Option.some_or]

/-- Rules that do not match are as good as none. -/
theorem matchRules_extend_of_not_matches (custom : List Rule)
    (h : ∀ rule ∈ n.rules, ¬ rule.Matches text) :
    (n.extend custom).matchRules now text = matchRules ⟨custom⟩ now text := by
  simp only [matchRules, extend, List.findSome?_append,
    (findSome?_apply_eq_none_iff now).mpr h, Option.none_or]

theorem matchRules_of_first {before after : List Rule} {rule : Rule} {m : Pattern.Match}
    (hbefore : ∀ r ∈ before, ¬ r.Matches text) (hm : rule.pattern.find? text = some m) :
    matchRules ⟨before ++ rule :: after⟩ now text = (rule.draft now m).complete now := by
  have hrule : rule.apply now text = some (rule.draft now m) := by rw [Rule.apply, hm, Option.map]
  have hskip := matchRules_extend_of_not_matches (n := ⟨before⟩) now (rule :: after) hbefore
  rw [extend] at hskip
  rw [hskip, matchRules, List.findSome?_cons, hrule, Option.getD_some]

theorem complete_guessed (text : List Char) :
    (guessed text).complete now =
      { level := Level.guess text
        message := if text.all isBlank then "(empty)" else String.ofList (Text.trim text)
        service := "unknown"
        timestamp := now.text
        metadata := [] } := by
  have hmessage : Draft.filled (some (String.ofList (Text.trim text))) "(empty)" =
      if text.all isBlank then "(empty)" else String.ofList (Text.trim text) := by
    by_cases hblank : text.all isBlank
    · rw [if_pos hblank, Text.trim_eq_nil_iff.mpr (List.all_eq_true.mp hblank)]
      rfl
    · have hne : String.ofList (Text.trim text) ≠ "" := by
        simpa [← String.toList_inj, Text.trim_eq_nil_iff] using hblank
      rw [if_neg hblank, Draft.filled, Option.filter_some_pos (by simpa using hne),
        Option.getD_some]
  rw [Draft.complete, guessed, ← hmessage]
  rfl

theorem matchRules_of_none (h : ∀ rule ∈ n.rules, ¬ rule.Matches text) :
    n.matchRules now text = (guessed text).complete now := by
  rw [matchRules, (findSome?_apply_eq_none_iff now).mpr h, Option.getD_none]

end MatchRules

/-! ### Registering -/

/-- The ways in which rules come to stand behind those of a normalizer. -/
inductive Registered : Normalizer → List Rule → Normalizer → Prop where
  | added (n : Normalizer) (custom : List Rule) : Registered n custom (custom.foldl addRule n)
  | withRules (custom : List Rule) : Registered builtin custom (builtin.extend custom)
  | configured {settings : List Rule.Settings} {custom : List Rule} {n : Normalizer}
      (hbuild : Rule.Settings.buildAll settings = .ok custom)
      (h : ofSettings settings = .ok n) : Registered builtin custom n

theorem foldl_addRule (n : Normalizer) (custom : List Rule) :
    custom.foldl addRule n = n.extend custom := by
  induction custom generalizing n with
  | nil => simp [extend]
  | cons rule custom ih => simp [ih, addRule, extend]

theorem Registered.eq_extend {n n' : Normalizer} {custom : List Rule}
    (h : Registered n custom n') : n' = n.extend custom := by
  cases h with
  | added => exact foldl_addRule n custom
  | withRules => rfl
  | configured hbuild h =>
    rw [ofSettings, hbuild] at h
    exact (Except.ok.inj h).symm

/-- What was recognized stays as it is. Elsewhere the first registered rule that matches decides, and
the record is guessed if none does. -/
theorem record_of_registered {n n' : Normalizer} {custom : List Rule}
    (h : Registered n custom n') (now : Time.Instant) (i : Input) :
    (i.IsRecognized n → n'.record now i = n.record now i) ∧
      (¬ i.IsRecognized n →
        (∀ before rule after m, custom = before ++ rule :: after →
          (∀ r ∈ before, ¬ r.Matches i.text) → rule.pattern.find? i.text = some m →
          n'.record now i = (rule.draft now m).complete now) ∧
        ((∀ rule ∈ custom, ¬ rule.Matches i.text) →
          n'.record now i =
            { level := Level.guess i.text
              message :=
                if i.text.all isBlank then "(empty)" else String.ofList (Text.trim i.text)
              service := "unknown"
              timestamp := now.text
              metadata := [] })) := by
  rw [h.eq_extend, record_eq, record_eq]
  cases hobject : i.object?.bind (Record.ofMembers? now) with
  | some r =>
    have hstructured : i.IsStructured := (isStructured_iff_isSome now).mpr (by simp [hobject])
    exact ⟨fun _ => rfl, fun hnot => absurd (.inl hstructured) hnot⟩
  | none =>
    have hunstructured : ¬ i.IsStructured := by simp [isStructured_iff_isSome now, hobject]
    rw [Option.getD_none, Option.getD_none]
    refine ⟨fun hrecognized => ?_, fun hnot => ?_⟩
    · exact matchRules_extend_of_matches now custom (hrecognized.resolve_left hunstructured)
    · have hnone : ∀ rule ∈ n.rules, ¬ rule.Matches i.text :=
        fun rule hrule hmatches => hnot (.inr ⟨rule, hrule, hmatches⟩)
      rw [matchRules_extend_of_not_matches now custom hnone]
      refine ⟨?_, fun hcustom => ?_⟩
      · rintro before rule after m rfl hbefore hm
        exact matchRules_of_first now hbefore hm
      · rw [matchRules_of_none now hcustom, complete_guessed]

/-- Its name is the service, the whole match the message. -/
def taggedRule (name pattern : String) : Rule where
  name
  pattern := Pattern.ofText pattern
  draft _ m := { Draft.empty with message := some (String.ofList m.whole), service := some name }

def greedySettings : Rule.Settings where
  name := "greedy"
  pattern := ".*"
  enabled := true
  level := none
  message := none
  service := some "custom"
  timestamp := none
  metadata := []

/-- A record already. -/
def warnLine : String := "\x7b\"level\": \"warn\", \"message\": \"b\"\x7d"

/-- A line that is recognized, bytes that the first of two rules takes, a value and a line that are
guessed, and a record that a rule for everything leaves alone. -/
theorem record_of_registered_tagged :
    let n : Normalizer := ⟨[taggedRule "first" "ab"]⟩
    let n' := [taggedRule "second" "b", taggedRule "third" "b c"].foldl addRule n
    n'.record ⟨0, 0⟩ (.line "ab c") = n.record ⟨0, 0⟩ (.line "ab c") ∧
      n'.record ⟨0, 0⟩ (.bytes [0x62, 0x20, 0x63]) =
        ⟨.info, "b", "second", Time.Instant.text ⟨0, 0⟩, []⟩ ∧
      n'.record ⟨0, 0⟩ (.value .null) =
        ⟨.info, "null", "unknown", Time.Instant.text ⟨0, 0⟩, []⟩ ∧
      n'.record ⟨0, 0⟩ (.line " ") = ⟨.info, "(empty)", "unknown", Time.Instant.text ⟨0, 0⟩, []⟩ ∧
      ∃ n'', ofSettings [greedySettings] = .ok n'' ∧
        n''.record ⟨0, 0⟩ (.line warnLine) = builtin.record ⟨0, 0⟩ (.line warnLine) := by
  intro n n'
  have hadded : Registered n [taggedRule "second" "b", taggedRule "third" "b c"] n' := .added n _
  have hnot (i : Input) (hi : ¬ (i.object?.bind (Record.ofMembers? ⟨0, 0⟩)).isSome)
      (hfirst : ¬ (taggedRule "first" "ab").Matches i.text) : ¬ i.IsRecognized n := by
    rintro (h | ⟨rule, hrule, hmatches⟩)
    · exact hi ((isStructured_iff_isSome ⟨0, 0⟩).mp h)
    · exact hfirst (List.mem_singleton.mp hrule ▸ hmatches)
  refine ⟨?recognized, ?first, ?guessed, ?blank, ?configured⟩
  case recognized =>
    exact (record_of_registered hadded ⟨0, 0⟩ (.line "ab c")).1
      (.inr ⟨_, List.mem_singleton.mpr rfl, by decide⟩)
  case first =>
    exact ((record_of_registered hadded ⟨0, 0⟩ (.bytes [0x62, 0x20, 0x63])).2
      (hnot _ (by decide) (by decide))).1 [] _ _ ⟨"b c".toList, 0, 1, []⟩ rfl
        (by simp) (by decide)
  case guessed =>
    exact ((record_of_registered hadded ⟨0, 0⟩ (.value .null)).2
      (hnot _ (by decide) (by decide))).2 (by decide)
  case blank =>
    exact ((record_of_registered hadded ⟨0, 0⟩ (.line " ")).2
      (hnot _ (by decide) (by decide))).2 (by decide)
  case configured =>
    have hok : (Rule.Settings.buildAll [greedySettings]).isOk := by decide
    cases hbuild : Rule.Settings.buildAll [greedySettings] with
    | error refused => simp [hbuild, Except.isOk, Except.toBool] at hok
    | ok custom =>
      have hsettings : ofSettings [greedySettings] = .ok (builtin.extend custom) := by
        rw [ofSettings, hbuild]
        rfl
      exact ⟨_, hsettings, (record_of_registered (.configured hbuild hsettings) ⟨0, 0⟩ _).1
        (.inl ((isStructured_iff_isSome ⟨0, 0⟩).mpr (by decide +kernel)))⟩

end Normalizer

end Logbook
