import Logbook.Proofs.Json.Fields
import Logbook.Proofs.Record.Structured

/-! Reading a record by its shape. An object whose keys are all fields is read as a record just in
case each field has one member that fits, except that metadata may be missing. -/

namespace Logbook.Record

open Json (Value Members IsTextOf quote)
open Json.Shape

theorem ofName?_name (level : Level) : Level.ofName? level.name = some level := by
  cases level <;> decide

theorem ofName?_eq_some_iff {name : String} {level : Level} :
    Level.ofName? name = some level ↔ name = level.name := by
  constructor
  · intro h
    have hname : (level.name == name) = true :=
      List.find?_some (p := fun level : Level => level.name == name) h
    exact (eq_of_beq hname).symm
  · rintro rfl
    exact ofName?_name level

theorem compactChars_toJson (r : Record) :
    r.toJson.compactChars = '\x7b' :: (quote "level" ++ ':' :: (quote r.level.name ++
      ',' :: (quote "message" ++ ':' :: (quote r.message ++
      ',' :: (quote "service" ++ ':' :: (quote r.service ++
      ',' :: (quote "timestamp" ++ ':' :: (quote r.timestamp ++
      ',' :: (quote "metadata" ++ ':' :: ((Value.object r.metadata).compactChars ++
      ['\x7d'])))))))))) := by
  simp [toJson, Value.compactChars, Value.compactMembers]

theorem name_mem (level : Level) : level.name ∈ Level.all.map Level.name := by
  cases level <;> decide

/-- The members that make up a record. The level may be null under its name, and missing metadata
is empty. -/
structure IsRecord (ms : Members) (r : Record) : Prop where
  level : ∃ v, ms.filter (·.1 == "level") = [("level", v)] ∧
    (v = .string r.level.name ∨ v = .object [(r.level.name, .null)])
  message : ms.filter (·.1 == "message") = [("message", .string r.message)]
  service : ms.filter (·.1 == "service") = [("service", .string r.service)]
  timestamp : ms.filter (·.1 == "timestamp") = [("timestamp", .string r.timestamp)]
  metadata : ms.filter (·.1 == "metadata") = [] ∧ r.metadata = [] ∨
    ∃ own, ms.filter (·.1 == "metadata") = [("metadata", .object own)] ∧
      (Value.object own).sorted = .object r.metadata

theorem isField_needed_iff {ms : Members} {name : String} {shape : Json.Shape} {w : Value} :
    IsField ms name shape .needed w ↔
      ∃ v, ms.filter (·.1 == name) = [(name, v)] ∧ shape.fit v = some w := by
  constructor
  · intro h
    cases h with
    | found hone hfit => exact ⟨_, hone, hfit⟩
  · rintro ⟨v, hone, hfit⟩
    exact .found hone hfit

theorem isField_text_iff {ms : Members} {name x : String} :
    IsField ms name text .needed (.string x) ↔ ms.filter (·.1 == name) = [(name, .string x)] := by
  simp [isField_needed_iff, fit_text_iff]

theorem isField_level_iff {ms : Members} {level : Level} :
    IsField ms "level" (choice (Level.all.map Level.name)) .needed (.string level.name) ↔
      ∃ v, ms.filter (·.1 == "level") = [("level", v)] ∧
        (v = .string level.name ∨ v = .object [(level.name, .null)]) := by
  have hfit (v : Value) :
      (choice (Level.all.map Level.name)).fit v = some (.string level.name) ↔
        v = .string level.name ∨ v = .object [(level.name, .null)] := by
    rw [fit_choice_iff]
    constructor
    · rintro ⟨name, -, hv, hname⟩
      obtain rfl := Value.string.inj hname
      exact hv
    · exact fun hv => ⟨level.name, name_mem level, hv, rfl⟩
  simp only [isField_needed_iff, hfit]

theorem isField_metadata_iff {ms metadata : Members} :
    IsField ms "metadata" (dict any) (.orElse (.object [])) (.object metadata) ↔
      ms.filter (·.1 == "metadata") = [] ∧ metadata = [] ∨
        ∃ own, ms.filter (·.1 == "metadata") = [("metadata", .object own)] ∧
          (Value.object own).sorted = .object metadata := by
  constructor
  · intro h
    cases h with
    | absent hnone => exact .inl ⟨hnone, rfl⟩
    | @found _ v _ hone hfit =>
      cases v with
      | object own =>
        rw [fit_dict_any] at hfit
        exact .inr ⟨own, hone, Option.some.inj hfit⟩
      | _ => cases hfit
  · rintro (⟨hnone, rfl⟩ | ⟨own, hone, hsorted⟩)
    · exact .absent hnone _
    · exact .found hone (by rw [fit_dict_any, hsorted])

/-- Each field has its part of the record. -/
theorem fit_iff {ms : Members} {r : Record} :
    (∃ w, shape.fit (.object ms) = some w ∧ ofJson? w = some r) ↔ IsRecord ms r := by
  have hfit (members : Members) : shape.fit (.object ms) = some (.object members) ↔
      List.Forall₂ (IsFieldOf ms) fields members := by
    rw [← fitFields_eq_some_iff, shape, fit_record]
    simp
  constructor
  · rintro ⟨w, hw, hr⟩
    rw [ofJson?.eq_def] at hr
    split at hr
    · obtain ⟨level, hname, rfl⟩ := Option.map_eq_some_iff.mp hr
      obtain rfl := ofName?_eq_some_iff.mp hname
      rw [hfit, fields] at hw
      simp only [List.forall₂_cons, IsFieldOf] at hw
      obtain ⟨⟨rfl, hlevel⟩, ⟨rfl, hmessage⟩, ⟨rfl, hservice⟩, ⟨rfl, htimestamp⟩,
        ⟨rfl, hmetadata⟩, -⟩ := hw
      exact
        { level := isField_level_iff.mp hlevel
          message := isField_text_iff.mp hmessage
          service := isField_text_iff.mp hservice
          timestamp := isField_text_iff.mp htimestamp
          metadata := isField_metadata_iff.mp hmetadata }
    · cases hr
  · intro h
    refine ⟨r.toJson, (hfit _).mpr ?_, by simp [toJson, ofJson?, ofName?_name]⟩
    exact .cons ⟨rfl, isField_level_iff.mpr h.level⟩
      (.cons ⟨rfl, isField_text_iff.mpr h.message⟩
      (.cons ⟨rfl, isField_text_iff.mpr h.service⟩
      (.cons ⟨rfl, isField_text_iff.mpr h.timestamp⟩
      (.cons ⟨rfl, isField_metadata_iff.mpr h.metadata⟩ .nil))))

theorem agreesOn_shape {ms : Members} (h : ∀ m ∈ ms, m.1 ∈ reservedKeys) :
    shape.AgreesOn (.object ms) := by
  have hdict (v : Value) : (dict any).AgreesOn v := agreesOn_dict agreesOn_any v
  refine agreesOn_record_of_forall (by decide) ?_ h
  simp [fields, agreesOn_choice, agreesOn_text, hdict]

/-- An object without unknown keys is read as a record when its members make one up and it does not
nest too deep. -/
theorem read_eq_ok_iff {ms : Members} {text : String} (htext : IsTextOf (.object ms) text)
    (hkeys : ∀ m ∈ ms, m.1 ∈ reservedKeys) {r : Record} :
    read text = .ok r ↔ (Value.object ms).depth ≤ 127 ∧ IsRecord ms r := by
  have hofJson (w : Value) :
      (ofJson? w).elim (throw .mismatch) pure = (.ok r : Except Json.Fault Record) ↔
        ofJson? w = some r := by
    cases ofJson? w <;> simp
  simp only [read, bind_eq_ok_iff, (agreesOn_shape hkeys).read_eq_ok_iff htext, hofJson, ← fit_iff]
  simp only [and_assoc, exists_and_left]

/-- A record is read back from its members in any order of the metadata. -/
theorem read_compact {r : Record} (h : Members.IsCanonical r.metadata) {members : Members}
    (hp : members.Perm r.metadata) (hexact : ∀ m ∈ r.metadata, m.2.IsExact)
    (hd : ∀ m ∈ r.metadata, m.2.depth ≤ 125) :
    read ({ r with metadata := members } : Record).toJson.compact = .ok r := by
  have htext := Json.isTextOf_compact (isExact_toJson (r := { r with metadata := members })
    fun m hm => hexact m (hp.mem_iff.mp hm))
  have hdepth : ({ r with metadata := members } : Record).toJson.depth ≤ 127 := by
    have hmembers := Value.memberDepth_le_iff.mpr fun m hm => hd m (hp.mem_iff.mp hm)
    rw [depth_toJson]
    exact Nat.add_le_add_right hmembers 2
  refine (read_eq_ok_iff htext (by simp [reservedKeys])).mpr ⟨hdepth, ?_⟩
  exact
    { level := ⟨_, rfl, .inl rfl⟩
      message := rfl
      service := rfl
      timestamp := rfl
      metadata := .inr ⟨members, rfl, h.sorted_object hp⟩ }

end Logbook.Record
