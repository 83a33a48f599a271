import Logbook.Proofs.Query.Translation
import Logbook.Query.Entry

/-! Which entries pass the search filter of a query that accepts them. Levels, services and messages
keep no such entry out. Metadata is asked for as equal whatever the operator of the filter was, so
an entry passes just in case the filters that decide its metadata say no less. -/

namespace Logbook.Query

namespace Target

variable {f : Filter}

theorem values_map_filter (t : Target) (filters : List Filter) :
    t.values (filters.map .filter) =
      (filters.filter fun f => t.accepts (.filter f)).map Filter.value := by
  rw [values, restrict, List.filter_map, List.filterMap_map]
  exact congrFun List.filterMap_eq_map _

theorem mem_values_map_filter {t : Target} {filters : List Filter} {value : String} :
    value ∈ t.values (filters.map .filter) ↔
      ∃ f ∈ filters, t.accepts (.filter f) ∧ f.value = value := by
  rw [values_map_filter, List.mem_map]
  simp [and_assoc]

/-- A target that filters set has a value that one of them says. -/
theorem values_map_filter_eq_nil_or (t : Target) (filters : List Filter) :
    t.values (filters.map .filter) = [] ∨ ∃ f ∈ filters, t.accepts (.filter f) ∧
      f.value ∈ t.values (filters.map .filter) := by
  refine or_iff_not_imp_left.mpr fun hne => ?_
  obtain ⟨value, hvalue⟩ := List.exists_mem_of_ne_nil _ hne
  obtain ⟨f, hf, ha, rfl⟩ := mem_values_map_filter.mp hvalue
  exact ⟨f, hf, ha, hvalue⟩

theorem getLast?_values_metadata (key : String) (filters : List Filter) :
    ((Target.metadata key).values (filters.map .filter)).getLast? =
      (deciding key filters).map Filter.value := by
  rw [values_map_filter, List.getLast?_map, deciding]

end Target

namespace Entry

variable {e : Entry} {f : Filter}

theorem level_eq (h : e.Satisfies f) (ha : Target.level.accepts (.filter f) = true) :
    String.ofList (Text.upper e.level.toList) = String.ofList (Text.upper f.value.toList) := by
  obtain ⟨hfield, hop⟩ := decide_eq_true_eq.mp ha
  simpa [Satisfies, hop, hfield, Equals, text?, compared] using h

theorem service_eq (h : e.Satisfies f) (ha : Target.service.accepts (.filter f) = true) :
    e.service = f.value := by
  obtain ⟨hfield, hop⟩ := decide_eq_true_eq.mp ha
  simpa [Satisfies, hop, hfield, Equals, text?, compared] using h

/-- Equality is a case of containment. -/
theorem infix_message (h : e.Satisfies f) (ha : Target.message.accepts (.filter f) = true) :
    f.value.toList <:+: e.message.toList := by
  obtain ⟨hfield, hop⟩ := decide_eq_true_eq.mp ha
  have htext : e.text? f.field = some e.message := by
    have hcases : f.field = "message" ∨ f.field = "@message" := by simpa using hfield
    rcases hcases with hf | hf <;> simp [text?, hf]
  have hlevel : f.field ≠ "level" := by
    rintro hf
    simp [hf] at hfield
  have hcases : f.operator = .equal ∨ f.operator = .like := by simpa using hop
  rcases hcases with hop | hop
  · have hsame : e.message = f.value := by
      simpa [Satisfies, hop, Equals, htext, compared, hlevel] using h
    rw [hsame]
  · simpa [Satisfies, hop, Contains, htext] using h

theorem text?_eq_lookup {key : String} (ha : (Target.metadata key).accepts (.filter f) = true) :
    f.field ≠ "level" ∧ e.text? f.field = e.metadata.lookup key := by
  obtain ⟨rfl, -, hat, hreserved⟩ := decide_eq_true_eq.mp ha
  have hdisplay : f.field ≠ "@message" := by
    intro hf
    simp [hf] at hat
  simp only [List.mem_cons, List.not_mem_nil, or_false, not_or] at hreserved
  obtain ⟨hlevel, hservice, hmessage⟩ := hreserved
  exact ⟨hlevel, by simp [text?, hlevel, hservice, hmessage, hdisplay]⟩

/-- A filter on metadata that an entry satisfies says that the value is there in two cases: it was
written as an equality, or what is contained is all there is. -/
theorem lookup_eq_iff {key : String} (h : e.Satisfies f)
    (ha : (Target.metadata key).accepts (.filter f) = true) :
    e.metadata.lookup key = some f.value ↔
      f.operator = .equal ∨ f.operator = .like ∧ e.metadata.lookup key = some f.value := by
  obtain ⟨hlevel, htext⟩ := text?_eq_lookup (e := e) ha
  have hequals : e.Equals f.field f.value ↔ e.metadata.lookup key = some f.value := by
    rw [Equals, htext]
    simp [compared, hlevel]
  have hcontains : e.metadata.lookup key = some f.value → e.Contains f.field f.value := by
    intro hlookup
    exact ⟨f.value, by rw [htext, hlookup]; rfl, List.infix_rfl⟩
  cases hop : f.operator with
  | equal =>
    have hsame : e.Equals f.field f.value := by simpa [Satisfies, hop] using h
    simp [hequals.mp hsame]
  | notEqual =>
    have hother : ¬ e.Equals f.field f.value := by simpa [Satisfies, hop] using h
    simp [mt hequals.mpr hother]
  | like => simp
  | notLike =>
    have hother : ¬ e.Contains f.field f.value := by simpa [Satisfies, hop] using h
    simp [mt hcontains hother]
  | greater | less | greaterOrEqual | lessOrEqual => simp [Satisfies, hop] at h

end Entry

namespace SearchFilter.Reflects

variable {s : SearchFilter} {filters : List Filter} {e : Entry}

theorem accepts_level (hs : s.Reflects (filters.map .filter)) (h : ∀ f ∈ filters, e.Satisfies f) :
    s.levels = [] ∨ String.ofList (Text.upper e.level.toList) ∈ s.levels := by
  rw [hs.levels]
  rcases Target.level.values_map_filter_eq_nil_or filters with hnil | ⟨f, hf, ha, hvalue⟩
  · exact .inl (by rw [hnil]; rfl)
  · right
    rw [Entry.level_eq (h f hf) ha, List.mem_eraseDups]
    exact List.mem_map_of_mem hvalue

theorem accepts_service (hs : s.Reflects (filters.map .filter))
    (h : ∀ f ∈ filters, e.Satisfies f) : ∀ service ∈ s.service, e.service = service := by
  intro service hservice
  rw [hs.service] at hservice
  obtain ⟨f, hf, ha, rfl⟩ := Target.mem_values_map_filter.mp (List.mem_of_getLast? hservice)
  exact Entry.service_eq (h f hf) ha

theorem accepts_message (hs : s.Reflects (filters.map .filter))
    (h : ∀ f ∈ filters, e.Satisfies f) :
    s.messages = [] ∨ ∃ part ∈ s.messages, part.toList <:+: e.message.toList := by
  rw [hs.messages]
  rcases Target.message.values_map_filter_eq_nil_or filters with hnil | ⟨f, hf, ha, hvalue⟩
  · exact .inl hnil
  · exact .inr ⟨f.value, hvalue, Entry.infix_message (h f hf) ha⟩

theorem accepts_metadata_iff (hs : s.Reflects (filters.map .filter))
    (h : ∀ f ∈ filters, e.Satisfies f) :
    (∀ key value, s.metadata.lookup key = some value → e.metadata.lookup key = some value) ↔
      ∀ key f, deciding key filters = some f →
        f.operator = .equal ∨ f.operator = .like ∧ e.metadata.lookup key = some f.value := by
  have hdecided {key : String} {f : Filter} (hf : deciding key filters = some f) :
      e.metadata.lookup key = some f.value ↔
        f.operator = .equal ∨ f.operator = .like ∧ e.metadata.lookup key = some f.value := by
    obtain ⟨hmem, ha⟩ := List.mem_filter.mp (List.mem_of_getLast? hf)
    exact Entry.lookup_eq_iff (h f hmem) ha
  constructor
  · intro hall key f hf
    apply (hdecided hf).mp
    apply hall key f.value
    rw [hs.metadata, Target.getLast?_values_metadata, hf]
    rfl
  · intro hall key value hlookup
    rw [hs.metadata, Target.getLast?_values_metadata] at hlookup
    obtain ⟨f, hf, rfl⟩ := Option.map_eq_some_iff.mp hlookup
    exact (hdecided hf).mpr (hall key f hf)

end SearchFilter.Reflects

/-- An entry that satisfies all filters of a query passes the search filter but for the metadata
that is asked for. It passes with the metadata just in case under every key the last filter is an
equality, or a containment of all there is. -/
theorem translate_accepts_iff {filters : List Filter} {e : Entry}
    (h : ∀ f ∈ filters, e.Satisfies f) :
    (filters ≠ [] → ∃ s, Parsed.translate ⟨filters.map .filter, none⟩ = .ok s) ∧
      ∀ s, Parsed.translate ⟨filters.map .filter, none⟩ = .ok s →
        ({ s with metadata := [] } : SearchFilter).Accepts e ∧
          (s.Accepts e ↔ ∀ key f, deciding key filters = some f →
            f.operator = .equal ∨ f.operator = .like ∧ e.metadata.lookup key = some f.value) := by
  have hnonempty {s : SearchFilter} (hs : Parsed.translate ⟨filters.map .filter, none⟩ = .ok s) :
      filters.map Command.filter ≠ [] := by
    intro hnil
    simp [Parsed.translate, hnil] at hs
  constructor
  · intro hne
    exact ⟨_, translate_eq (by simpa using hne)⟩
  · intro s hs
    rw [translate_eq (hnonempty hs)] at hs
    obtain rfl := Except.ok.inj hs
    have hreflects := SearchFilter.reflects_initial.foldl (filters.map Command.filter)
    rw [List.nil_append] at hreflects
    have hlevel := hreflects.accepts_level h
    have hservice := hreflects.accepts_service h
    have hmessage := hreflects.accepts_message h
    refine ⟨⟨hlevel, hservice, hmessage, by simp⟩, ?_⟩
    rw [← hreflects.accepts_metadata_iff h]
    exact ⟨fun ha => ha.metadata, fun hmetadata => ⟨hlevel, hservice, hmessage, hmetadata⟩⟩

/-- Filters of every kind, two of them on one key. -/
def sampleFilters : List Filter :=
  [⟨"level", .equal, "warn"⟩, ⟨"host", .notEqual, "b"⟩, ⟨"@message", .like, "time"⟩,
    ⟨"service", .notLike, "db"⟩, ⟨"host", .equal, "a"⟩, ⟨"region", .like, "eu"⟩]

def entryIn (region : String) : Entry :=
  ⟨"Warn", "api", "timeout", [("host", "a"), ("region", region)]⟩

/-- The containment lets an entry through if it is an equality as well. -/
theorem translate_accepts_sample :
    (∀ f ∈ sampleFilters, (entryIn "eu").Satisfies f ∧ (entryIn "eu-west").Satisfies f) ∧
      ∃ s, Parsed.translate ⟨sampleFilters.map .filter, none⟩ = .ok s ∧
        s.Accepts (entryIn "eu") ∧ ¬ s.Accepts (entryIn "eu-west") := by
  have heu : ∀ f ∈ sampleFilters, (entryIn "eu").Satisfies f := by decide
  have hwest : ∀ f ∈ sampleFilters, (entryIn "eu-west").Satisfies f := by decide
  obtain ⟨s, hs⟩ := (translate_accepts_iff heu).1 (by decide)
  refine ⟨fun f hf => ⟨heu f hf, hwest f hf⟩, s, hs, ?_, ?_⟩
  · refine (((translate_accepts_iff heu).2 s hs).2).mpr fun key f hf => ?_
    obtain ⟨hmem, ha⟩ := List.mem_filter.mp (List.mem_of_getLast? hf)
    obtain rfl : f.field = key := (decide_eq_true_eq.mp ha).1
    have hall : ∀ f ∈ sampleFilters, deciding f.field sampleFilters = some f →
        f.operator = .equal ∨
          f.operator = .like ∧ (entryIn "eu").metadata.lookup f.field = some f.value := by
      decide
    exact hall f hmem hf
  · intro hwestAccepted
    have hregion := (((translate_accepts_iff hwest).2 s hs).2).mp hwestAccepted "region"
      ⟨"region", .like, "eu"⟩ (by decide)
    revert hregion
    decide

/-! ### A filter that asks for the contrary -/

def unequalHost : List Filter := [⟨"host", .notEqual, "a"⟩]

def otherHost : Entry := ⟨"info", "api", "started", [("host", "b")]⟩

/-- An entry with another host satisfies the query, and the search filter keeps it out. -/
theorem not_accepts_otherHost :
    (∀ f ∈ unequalHost, otherHost.Satisfies f) ∧
      ∃ s, Parsed.translate ⟨unequalHost.map .filter, none⟩ = .ok s ∧ ¬ s.Accepts otherHost := by
  refine ⟨by decide, _, rfl, fun haccepts => ?_⟩
  have hhost := haccepts.metadata "host" "a" rfl
  revert hhost
  decide

end Logbook.Query
