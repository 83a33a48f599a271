import Logbook.Proofs.Keyed
import Logbook.Query.Target

/-! The meaning of a pipeline. The search filter that commands add up to reflects, for every
target, the commands that set it; each further command changes its own target and no other. -/

namespace Logbook.Query

namespace Target

theorem restrict_concat (t : Target) (commands : List Command) (c : Command) :
    t.restrict (commands ++ [c]) = t.restrict commands ++ if t.accepts c then [c] else [] := by
  rw [restrict, restrict, List.filter_append]
  by_cases h : t.accepts c <;> simp [h]

theorem values_concat_filter (t : Target) (commands : List Command) (f : Filter) :
    t.values (commands ++ [.filter f]) =
      t.values commands ++ if t.accepts (.filter f) then [f.value] else [] := by
  rw [values, restrict_concat, List.filterMap_append, values]
  by_cases h : t.accepts (.filter f) <;> simp [h, Command.value?]

theorem values_concat {c : Command} (h : c.value? = none) (t : Target) (commands : List Command) :
    t.values (commands ++ [c]) = t.values commands := by
  rw [values, restrict_concat, List.filterMap_append, values]
  by_cases ha : t.accepts c <;> simp [ha, h]

theorem accepts_display {c : Command} (h : c.isDisplay = true) (t : Target) :
    t.accepts c = false := by
  cases c <;> cases t <;> simp_all [accepts, Command.isDisplay]

/-- Display stages set nothing. -/
theorem restrict_filter_display (t : Target) (commands : List Command) :
    t.restrict (commands.filter fun c => !c.isDisplay) = t.restrict commands := by
  rw [restrict, List.filter_filter, restrict]
  apply List.filter_congr
  intro c _
  cases h : c.isDisplay <;> simp [accepts_display, h]

end Target

namespace SearchFilter

theorem addLevel_eq (s : SearchFilter) (level : String) :
    s.addLevel level = { s with levels := (s.addLevel level).levels } := by
  simp only [addLevel]
  split <;> rfl

/-- A level that is there already, in any mixture of cases, is not added again. -/
theorem addLevel_levels {s : SearchFilter} {levels : List String} (h : s.levels = levels.eraseDups)
    (level : String) :
    (s.addLevel level).levels =
      (levels ++ [String.ofList (Text.upper level.toList)]).eraseDups := by
  simp only [addLevel]
  generalize String.ofList (Text.upper level.toList) = upper
  have hmem : s.levels.contains upper = levels.contains upper := by
    rw [h, Bool.eq_iff_iff, List.contains_iff_mem, List.contains_iff_mem, List.mem_eraseDups]
  rw [List.eraseDups_append, ← h, hmem]
  cases hc : levels.contains upper <;>
    simp_all [List.removeAll, List.eraseDups_cons]

theorem accepts_metadata (key : String) (f : Filter) :
    (Target.metadata key).accepts (.filter f) = (f.field == key && isMetadataKey f.field) := by
  rw [Bool.eq_iff_iff]
  by_cases h : f.field = key
  · subst h
    simp [Target.accepts, isMetadataKey, and_assoc]
  · simp [Target.accepts, h]

/-- A filter changes the target that accepts it. -/
theorem applyFilter_eq (s : SearchFilter) (f : Filter) :
    s.applyFilter f =
      { s with
        levels := if Target.level.accepts (.filter f) then (s.addLevel f.value).levels else s.levels
        service := if Target.service.accepts (.filter f) then some f.value else s.service
        messages := s.messages ++ if Target.message.accepts (.filter f) then [f.value] else []
        metadata :=
          if isMetadataKey f.field then Keyed.insert f.field f.value s.metadata
          else s.metadata } := by
  by_cases hlevel : f.field = "level" ∧ f.operator = .equal
  · have hkey : isMetadataKey "level" = false := by decide
    rw [applyFilter, if_pos hlevel, addLevel_eq]
    simp [Target.accepts, hlevel, hkey]
  rw [applyFilter, if_neg hlevel]
  by_cases hservice : f.field = "service" ∧ f.operator = .equal
  · have hkey : isMetadataKey "service" = false := by decide
    simp [Target.accepts, hservice, hkey]
  rw [if_neg hservice]
  by_cases hmessage : f.field ∈ ["message", "@message"] ∧ f.operator ∈ [.equal, .like]
  · have hkey : isMetadataKey f.field = false := by
      have hfield : f.field = "message" ∨ f.field = "@message" := by simpa using hmessage.1
      rcases hfield with hm | hm <;> rw [hm] <;> decide
    simp [Target.accepts, hlevel, hservice, hmessage, hkey]
  · have hlevel' : Target.level.accepts (.filter f) = false := decide_eq_false hlevel
    have hservice' : Target.service.accepts (.filter f) = false := decide_eq_false hservice
    have hmessage' : Target.message.accepts (.filter f) = false := decide_eq_false hmessage
    rw [if_neg hmessage, hlevel', hservice', hmessage']
    cases hkey : isMetadataKey f.field <;> simp

/-- What the filter holds once some commands were applied. -/
structure Reflects (s : SearchFilter) (commands : List Command) : Prop where
  levels : s.levels =
    ((Target.level.values commands).map fun v => String.ofList (Text.upper v.toList)).eraseDups
  service : s.service = (Target.service.values commands).getLast?
  messages : s.messages = Target.message.values commands
  ordered : Keyed.IsOrdered s.metadata
  metadata : ∀ key, s.metadata.lookup key = ((Target.metadata key).values commands).getLast?
  order : s.order =
    ((Target.order.restrict commands).filterMap Command.order?).getLast?.getD .desc
  page : s.page = 1
  limit : s.limit = ((Target.limit.restrict commands).filterMap Command.count?).getLast?.getD 20

theorem apply_sort (s : SearchFilter) (c : Sorting) :
    s.apply (.sort c) =
      { s with order := if Target.order.accepts (.sort c) then c.order else s.order } := by
  by_cases h : c.field ∈ ["timestamp", "@timestamp"]
  · have ha : Target.order.accepts (.sort c) = true := decide_eq_true h
    rw [apply, if_pos h, ha, if_pos rfl]
  · have ha : Target.order.accepts (.sort c) = false := decide_eq_false h
    rw [apply, if_neg h, ha]
    rfl

theorem apply_display {c : Command} (h : c.isDisplay = true) (s : SearchFilter) :
    s.apply c = s := by
  cases c <;> simp_all [Command.isDisplay, apply]

namespace Reflects

variable {s : SearchFilter} {done : List Command}

theorem congr {done' : List Command} (h : s.Reflects done)
    (hsame : ∀ t : Target, t.restrict done' = t.restrict done) : s.Reflects done' := by
  have hvalues (t : Target) : t.values done' = t.values done := by
    rw [Target.values, hsame, Target.values]
  obtain ⟨levels, service, messages, ordered, metadata, order, page, limit⟩ := h
  rw [← hvalues] at levels service messages
  rw [← hsame] at order limit
  exact ⟨levels, service, messages, ordered, fun key => hvalues _ ▸ metadata key, order, page,
    limit⟩

theorem metadata_filter (h : s.Reflects done) (f : Filter) (key : String) :
    (if isMetadataKey f.field then Keyed.insert f.field f.value s.metadata
      else s.metadata).lookup key =
      ((Target.metadata key).values (done ++ [.filter f])).getLast? := by
  rw [Target.values_concat_filter, accepts_metadata]
  cases hk : isMetadataKey f.field with
  | false => simpa using h.metadata key
  | true =>
    rw [if_pos rfl, Keyed.lookup_insert, h.metadata key]
    by_cases hf : key = f.field
    · simp [hf]
    · simp [hf, Ne.symm hf]

theorem filter (h : s.Reflects done) (f : Filter) :
    (s.applyFilter f).Reflects (done ++ [.filter f]) := by
  have hconcat (t : Target) := t.values_concat_filter done f
  have horder : Target.order.restrict (done ++ [.filter f]) = Target.order.restrict done := by
    simp [Target.restrict_concat, Target.accepts]
  have hlimit : Target.limit.restrict (done ++ [.filter f]) = Target.limit.restrict done := by
    simp [Target.restrict_concat, Target.accepts]
  rw [applyFilter_eq]
  constructor
  case levels =>
    rw [hconcat]
    cases Target.level.accepts (.filter f) with
    | false => simpa using h.levels
    | true => simpa using addLevel_levels h.levels f.value
  case service =>
    rw [hconcat]
    cases Target.service.accepts (.filter f) with
    | false => simpa using h.service
    | true => simp
  case messages => rw [hconcat, h.messages]
  case ordered =>
    cases hk : isMetadataKey f.field with
    | false => simpa [hk] using h.ordered
    | true => simpa [hk] using h.ordered.insert f.field f.value
  case metadata => exact h.metadata_filter f
  case order => rw [horder, h.order]
  case page => exact h.page
  case limit => rw [hlimit, h.limit]

theorem sort (h : s.Reflects done) (c : Sorting) :
    (s.apply (.sort c)).Reflects (done ++ [.sort c]) := by
  have hconcat (t : Target) := t.values_concat (c := .sort c) rfl done
  have hlimit : Target.limit.restrict (done ++ [.sort c]) = Target.limit.restrict done := by
    simp [Target.restrict_concat, Target.accepts]
  rw [apply_sort]
  constructor
  case levels => rw [hconcat, h.levels]
  case service => rw [hconcat, h.service]
  case messages => rw [hconcat, h.messages]
  case ordered => exact h.ordered
  case metadata => intro key; rw [hconcat, h.metadata]
  case order =>
    rw [Target.restrict_concat]
    cases Target.order.accepts (.sort c) with
    | false => simpa using h.order
    | true => simp [Command.order?]
  case page => exact h.page
  case limit => rw [hlimit, h.limit]

theorem limited (h : s.Reflects done) (n : Nat) :
    (s.apply (.limit n)).Reflects (done ++ [.limit n]) := by
  have hconcat (t : Target) := t.values_concat (c := .limit n) rfl done
  have horder : Target.order.restrict (done ++ [.limit n]) = Target.order.restrict done := by
    simp [Target.restrict_concat, Target.accepts]
  rw [SearchFilter.apply]
  constructor
  case levels => rw [hconcat, h.levels]
  case service => rw [hconcat, h.service]
  case messages => rw [hconcat, h.messages]
  case ordered => exact h.ordered
  case metadata => intro key; rw [hconcat, h.metadata]
  case order => rw [horder, h.order]
  case page => exact h.page
  case limit => simp [Target.restrict_concat, Target.accepts, Command.count?]

theorem display (h : s.Reflects done) {c : Command} (hc : c.isDisplay = true) :
    (s.apply c).Reflects (done ++ [c]) := by
  rw [apply_display hc]
  apply h.congr
  intro t
  simp [Target.restrict_concat, Target.accepts_display hc]

/-- One more command is reflected in its own target. -/
theorem apply (h : s.Reflects done) (c : Command) : (s.apply c).Reflects (done ++ [c]) := by
  cases c with
  | filter f => exact h.filter f
  | sort c => exact h.sort c
  | limit n => exact h.limited n
  | fields _ => exact h.display rfl
  | stats _ => exact h.display rfl
  | parse _ => exact h.display rfl

theorem foldl (h : s.Reflects done) (commands : List Command) :
    (commands.foldl SearchFilter.apply s).Reflects (done ++ commands) := by
  induction commands generalizing s done with
  | nil => simpa using h
  | cons c commands ih => simpa using ih (h.apply c)

end Reflects

theorem reflects_initial : initial.Reflects [] where
  levels := rfl
  service := rfl
  messages := rfl
  ordered := List.Pairwise.nil
  metadata _ := rfl
  order := rfl
  page := rfl
  limit := rfl

theorem Reflects.isMeaningOf {s : SearchFilter} {commands : List Command}
    (h : s.Reflects commands) : s.request.IsMeaningOf commands := by
  have habsent {α : Type} (l : List α) : (some l).filter (!·.isEmpty) = absentIfEmpty l := by
    cases l <;> simp [absentIfEmpty]
  constructor
  case levels => rw [request, habsent, h.levels]
  case service => rw [request, h.service]
  case messages => exact h.messages
  case metadata => exact ⟨s.metadata, habsent _, h.ordered, h.metadata⟩
  case sort => rfl
  case order => exact h.order
  case page => exact h.page
  case limit => exact h.limit

end SearchFilter

namespace SearchRequest.IsMeaningOf

variable {r : SearchRequest} {commands : List Command}

theorem congr {others : List Command} (h : r.IsMeaningOf commands)
    (hsame : ∀ t : Target, t.restrict others = t.restrict commands) : r.IsMeaningOf others := by
  have hvalues (t : Target) : t.values others = t.values commands := by
    rw [Target.values, hsame, Target.values]
  obtain ⟨levels, service, messages, ⟨labels, hlabels, hordered, hlookup⟩, sort, order, page,
    limit⟩ := h
  rw [← hvalues] at levels service messages
  rw [← hsame] at order limit
  exact ⟨levels, service, messages, ⟨labels, hlabels, hordered, fun key => hvalues _ ▸ hlookup key⟩,
    sort, order, page, limit⟩

/-- The commands leave nothing open. -/
theorem unique {r' : SearchRequest} (h : r.IsMeaningOf commands) (h' : r'.IsMeaningOf commands) :
    r = r' := by
  obtain ⟨levels, service, messages, ⟨labels, hlabels, hordered, hlookup⟩, sort, order, page,
    limit⟩ := h
  obtain ⟨levels', service', messages', ⟨labels', hlabels', hordered', hlookup'⟩, sort', order',
    page', limit'⟩ := h'
  have hsame : labels = labels' := hordered.ext hordered' fun key => by rw [hlookup, hlookup']
  subst hsame
  cases r
  cases r'
  simp_all

end SearchRequest.IsMeaningOf

theorem translate_eq {commands : List Command} (hne : commands ≠ []) :
    Parsed.translate ⟨commands, none⟩ = .ok (commands.foldl SearchFilter.apply .initial) := by
  simp [Parsed.translate, hne]

theorem isMeaningOf_foldl (commands : List Command) :
    (commands.foldl SearchFilter.apply .initial).request.IsMeaningOf commands := by
  simpa using (SearchFilter.reflects_initial.foldl commands).isMeaningOf

/-- A level twice, in two mixtures of cases, and a key twice. -/
def overriding : List Command :=
  [.filter ⟨"level", .equal, "warn"⟩, .filter ⟨"host", .equal, "a"⟩,
    .filter ⟨"level", .equal, "WARN"⟩, .filter ⟨"host", .notEqual, "b"⟩,
    .filter ⟨"@message", .like, "timeout"⟩, .filter ⟨"service", .equal, "all"⟩,
    .sort ⟨"@timestamp", "asc"⟩, .limit 5]

end Logbook.Query
