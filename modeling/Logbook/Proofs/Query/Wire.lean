import Logbook.Proofs.Json.Compact
import Logbook.Proofs.Json.Fields
import Logbook.Proofs.Json.Items
import Logbook.Proofs.Json.Tagged
import Logbook.Query.Wire

/-! Commands and requests come back from their JSON. The fields of a record may be read in any
order, and so may the name of a command and its parameters; what is written only where it is set
stands for its default when it is missing. -/

namespace Logbook.Query

open Json (Shape Value Members IsTextOf)
open Json.Shape

/-! ### Parts -/

theorem mapM_map {α β γ : Type} {f : α → β} {g : β → Option γ} {k : α → γ}
    (h : ∀ x, g (f x) = some (k x)) (l : List α) : (l.map f).mapM g = some (l.map k) := by
  have hcomp : g ∘ f = fun x => pure (k x) := funext h
  rw [List.mapM_map, hcomp, List.mapM_pure]
  rfl

theorem strings?_ofStrings (xs : List String) : strings? (.ofStrings xs) = some xs := by
  have hitem (x : String) : (Value.string x).string? = some (id x) := rfl
  simp only [strings?, Value.ofStrings, mapM_map hitem, List.map_id]

theorem labels?_ofLabels (labels : Labels) : (Value.ofLabels labels).labels? = some labels := by
  have hentries := mapM_map (f := fun m : String × String => (m.1, Value.string m.2))
    (g := fun m => m.2.string?.map fun s => (m.1, s)) (k := id) (fun _ => rfl) labels
  rwa [List.map_id] at hentries

theorem fit_text (x : String) : text.fit (.string x) = some (.string x) := rfl

theorem fit_flag (b : Bool) : flag.fit (.bool b) = some (.bool b) := rfl

theorem fit_word32 {n : Nat} (h : n < 2 ^ 32) : word32.fit (.integer n) = some (.integer n) := by
  have hword : isWord32 (.integer n) = true := by
    simp [isWord32, Value.integer]
    omega
  rw [fit_word32_eq, if_pos hword]

theorem fit_texts (xs : List String) : (list text).fit (.ofStrings xs) = some (.ofStrings xs) := by
  rw [Value.ofStrings, fit_list, mapM_map fit_text, Option.map_some]

/-- Labels in the order of their keys stay as they are. -/
theorem fit_labels {labels : Labels} (h : Keyed.IsOrdered labels) :
    (dict text).fit (.ofLabels labels) = some (.ofLabels labels) := by
  have hentry (m : String × String) :
      text.fitEntry (m.1, .string m.2) = some (m.1, .string m.2) := by
    rw [fitEntry, fit_text, Option.map_some]
  have hordered : Keyed.IsOrdered (labels.map fun m => (m.1, Value.string m.2)) := by
    simpa [Keyed.IsOrdered, List.pairwise_map] using h
  have hsame := Keyed.ofList_perm hordered (List.Perm.refl _)
  rw [Value.ofLabels, fit_dict, mapM_map hentry, Option.map_some, hsame]

theorem fit_choice {names : List String} {name : String} (h : name ∈ names) :
    (choice names).fit (.string name) = some (.string name) := by
  rw [fit_choice_string, if_pos h]

theorem ofToken?_token (op : Operator) : Operator.ofToken? op.token = some op := by
  cases op <;> decide

theorem token_mem (op : Operator) : op.token ∈ Operator.scanOrder.map Operator.token := by
  cases op <;> decide

theorem ofName?_name (order : SortOrder) : SortOrder.ofName? order.name = some order := by
  cases order <;> decide

theorem name_mem (order : SortOrder) : order.name ∈ ["asc", "desc"] := by
  cases order <;> decide

theorem isExact_string (x : String) : (Value.string x).IsExact := by
  simp [Value.IsExact, Value.numbers]

theorem isExact_bool (b : Bool) : (Value.bool b).IsExact := by
  simp [Value.IsExact, Value.numbers]

theorem isExact_word {n : Nat} (h : n < 2 ^ 32) : (Value.integer n).IsExact := by
  simp [Value.IsExact, Value.numbers, Value.integer, Json.Number.Fits, Json.Number.IsInteger]
  omega

theorem isExact_texts (xs : List String) : (Value.ofStrings xs).IsExact := by
  simp [Value.ofStrings, Value.isExact_array, isExact_string]

theorem isExact_labels (labels : Labels) : (Value.ofLabels labels).IsExact :=
  Value.isExact_object.mpr (List.forall_mem_map.mpr fun m _ => isExact_string m.2)

theorem depth_texts (xs : List String) : (Value.ofStrings xs).depth ≤ 1 := by
  have hitems : Value.itemDepth (xs.map .string) ≤ 0 :=
    Value.itemDepth_le_iff.mpr (by simp [Value.depth])
  simpa [Value.ofStrings, Value.depth] using hitems

theorem depth_labels (labels : Labels) : (Value.ofLabels labels).depth ≤ 1 := by
  have hitems : Value.memberDepth (labels.map fun m => (m.1, Value.string m.2)) ≤ 0 :=
    Value.memberDepth_le_iff.mpr (List.forall_mem_map.mpr fun _ _ => Nat.le_refl 0)
  simpa [Value.ofLabels, Value.depth] using hitems

/-! ### The parameters of the stages

Each is in shape, and can be told from what the shape makes of it. -/

theorem Filter.exists_fit (f : Filter) : ∃ w, shape.fit f.toJson = some w ∧ ofJson? w = some f := by
  refine ⟨f.toJson, ?_, ?_⟩
  · have hoperator := fit_choice (token_mem f.operator)
    simp [shape, toJson, fit_record, fitFields, neededFields, fit_text, hoperator]
  · simp [toJson, ofJson?, ofToken?_token]

theorem Stats.exists_fit (s : Stats) : ∃ w, shape.fit s.toJson = some w ∧ ofJson? w = some s := by
  refine ⟨s.toJson, ?_, ?_⟩
  · simp [shape, toJson, fit_record, fitFields, neededFields, fit_text, fit_texts]
  · simp [toJson, ofJson?, strings?_ofStrings]

theorem Sorting.exists_fit (s : Sorting) :
    ∃ w, shape.fit s.toJson = some w ∧ ofJson? w = some s := by
  refine ⟨s.toJson, ?_, rfl⟩
  simp [shape, toJson, fit_record, fitFields, neededFields, fit_text]

/-- A missing mark is read as one that is not set. -/
theorem Extraction.exists_fit (e : Extraction) :
    ∃ w, shape.fit e.toJson = some w ∧ ofJson? w = some e := by
  refine ⟨.object [("field", .string e.field), ("pattern", .string e.pattern),
    ("alias", .string e.nameList), ("regex", .bool e.isRegex)], ?_, rfl⟩
  cases hregex : e.isRegex <;>
    simp [shape, toJson, fit_record, fitFields, neededFields, fit_text, fit_flag, hregex]

/-! ### Commands -/

namespace Command

/-- What belongs to the kind of a command is read as its shape says. -/
theorem agreesOn_parameters (c : Command) {shape : Shape}
    (h : parameterShapes.lookup c.kind = some shape) : shape.AgreesOn c.parameters := by
  have htexts (v : Value) : (list text).AgreesOn v := (agreesEarly_list agreesOn_text v).agreesOn
  cases c with
  | fields names =>
    obtain rfl := Option.some.inj h
    exact agreesOn_record_of_forall (by decide) (by simpa [neededFields] using htexts)
      (by simp [neededFields])
  | filter f =>
    obtain rfl := Option.some.inj h
    exact agreesOn_record_of_forall (by decide)
      (by simp [neededFields, agreesOn_text, agreesOn_choice]) (by simp [neededFields])
  | stats s =>
    obtain rfl := Option.some.inj h
    exact agreesOn_record_of_forall (by decide) (by simp [neededFields, agreesOn_text, htexts])
      (by simp [neededFields])
  | sort s =>
    obtain rfl := Option.some.inj h
    exact agreesOn_record_of_forall (by decide) (by simp [neededFields, agreesOn_text])
      (by simp [neededFields])
  | limit count =>
    obtain rfl := Option.some.inj h
    exact agreesOn_record_of_forall (by decide) (by simp [neededFields, agreesOn_word32])
      (by simp [neededFields])
  | parse e =>
    obtain rfl := Option.some.inj h
    exact agreesOn_record_of_forall (by decide)
      (by simp [neededFields, agreesOn_text, agreesOn_flag])
      (by cases e.isRegex <;> simp [neededFields])

/-- The parameters are in shape, and the command can be told from them. -/
theorem exists_fitCase {c : Command} (h : ∀ count, c = .limit count → count < 2 ^ 32) :
    ∃ w, fitCase parameterShapes c.kind c.parameters = some w ∧
      ofParameters? c.kind w = some c := by
  cases c with
  | fields names =>
    refine ⟨.object [("fields", .ofStrings names)], ?_, ?_⟩
    · simp [fitCase, parameterShapes, kind, parameters, fit_record, fitFields, neededFields,
        fit_texts]
    · simp [kind, ofParameters?, strings?_ofStrings]
  | filter f =>
    obtain ⟨w, hfit, hw⟩ := f.exists_fit
    exact ⟨w, hfit, by rw [kind, ofParameters?, hw, Option.map_some]⟩
  | stats s =>
    obtain ⟨w, hfit, hw⟩ := s.exists_fit
    exact ⟨w, hfit, by rw [kind, ofParameters?, hw, Option.map_some]⟩
  | sort s =>
    obtain ⟨w, hfit, hw⟩ := s.exists_fit
    exact ⟨w, hfit, by rw [kind, ofParameters?, hw, Option.map_some]⟩
  | limit count =>
    refine ⟨.object [("limit", .integer count)], ?_, rfl⟩
    simp [fitCase, parameterShapes, kind, parameters, fit_record, fitFields, neededFields,
      fit_word32 (h count rfl)]
  | parse e =>
    obtain ⟨w, hfit, hw⟩ := e.exists_fit
    exact ⟨w, hfit, by rw [kind, ofParameters?, hw, Option.map_some]⟩

theorem isExact_parameters {c : Command} (h : ∀ count, c = .limit count → count < 2 ^ 32) :
    c.parameters.IsExact := by
  cases c with
  | fields names => simp [parameters, Value.isExact_object, isExact_texts]
  | filter f => simp [parameters, Filter.toJson, Value.isExact_object, isExact_string]
  | stats s =>
    simp [parameters, Stats.toJson, Value.isExact_object, isExact_string, isExact_texts]
  | sort s => simp [parameters, Sorting.toJson, Value.isExact_object, isExact_string]
  | limit count => simp [parameters, Value.isExact_object, isExact_word (h count rfl)]
  | parse e =>
    cases hregex : e.isRegex <;>
      simp [parameters, Extraction.toJson, Value.isExact_object, isExact_string, isExact_bool,
        hregex]

theorem depth_parameters_le (c : Command) : c.parameters.depth ≤ 2 := by
  cases c with
  | fields names => simpa [parameters, Value.depth, Value.memberDepth] using depth_texts names
  | filter f => simp [parameters, Filter.toJson, Value.depth, Value.memberDepth]
  | stats s =>
    simpa [parameters, Stats.toJson, Value.depth, Value.memberDepth] using depth_texts s.groupBy
  | sort s => simp [parameters, Sorting.toJson, Value.depth, Value.memberDepth]
  | limit count => simp [parameters, Value.depth, Value.memberDepth, Value.integer]
  | parse e =>
    cases hregex : e.isRegex <;>
      simp [parameters, Extraction.toJson, Value.depth, Value.memberDepth, hregex]

/-- A value is read as a command when it has the kind and the parameters of the command. -/
theorem read_eq_ok {c : Command} (h : ∀ count, c = .limit count → count < 2 ^ 32) {v : Value}
    (hagrees : shape.AgreesOn v) (hfit : shape.fit v =
      (fitCase parameterShapes c.kind c.parameters).map (Shape.taggedValue c.kind))
    (hdepth : v.depth = c.parameters.depth + 1) {text : String} (htext : IsTextOf v text) :
    read text = .ok c := by
  obtain ⟨w, hw, hc⟩ := exists_fitCase h
  have hread : shape.read text = .ok (Shape.taggedValue c.kind w) := by
    have hroom := c.depth_parameters_le
    exact (hagrees.read_eq_ok_iff htext).mpr ⟨by omega, by rw [hfit, hw, Option.map_some]⟩
  have hof : ofJson? (Shape.taggedValue c.kind w) = some c := hc
  rw [read, hread, ok_bind, hof]
  rfl

theorem read_nameFirst {c : Command} (h : ∀ count, c = .limit count → count < 2 ^ 32)
    {text : String} (htext : IsTextOf c.toJson text) : read text = .ok c := by
  have hdepth : c.toJson.depth = c.parameters.depth + 1 := by
    simp [toJson, taggedValue, Value.depth, Value.memberDepth]
  exact read_eq_ok h (agreesOn_nameFirst fun _ => c.agreesOn_parameters) (fit_nameFirst _ _ _)
    hdepth htext

theorem read_contentFirst {c : Command} (h : ∀ count, c = .limit count → count < 2 ^ 32)
    {text : String}
    (htext : IsTextOf (.object [("params", c.parameters), ("type", .string c.kind)]) text) :
    read text = .ok c := by
  have hdepth : (Value.object [("params", c.parameters), ("type", .string c.kind)]).depth =
      c.parameters.depth + 1 := by
    simp [Value.depth, Value.memberDepth]
  exact read_eq_ok h (agreesOn_contentFirst _ _ _) (fit_contentFirst _ _ _) hdepth htext

end Command

/-! ### Requests -/

namespace SearchRequest

/-- The value of what may be absent. -/
def orNull {α : Type} (toJson : α → Value) (x : Option α) : Value := (x.map toJson).getD .null

theorem optional?_orNull {α : Type} {toJson : α → Value} {ofJson? : Value → Option α}
    (hne : ∀ a, toJson a ≠ .null) (hof : ∀ a, ofJson? (toJson a) = some a) (x : Option α) :
    optional? ofJson? (orNull toJson x) = some x := by
  cases x with
  | none => rfl
  | some a =>
    rw [orNull, Option.map_some, Option.getD_some, optional?.eq_def]
    split
    · next hnull => exact absurd hnull (hne a)
    · rw [hof, Option.map_some]

/-- What is absent is read as null. -/
theorem isField_orNull {α : Type} {ms : Members} {key : String} {item : Shape}
    {toJson : α → Value} {x : Option α}
    (hms : ms.filter (·.1 == key) = (x.map fun a => (key, toJson a)).toList)
    (hfit : ∀ a ∈ x, item.fit (toJson a) = some (toJson a)) :
    IsField ms key (optional item) .orNull (orNull toJson x) := by
  cases x with
  | none => exact .null hms
  | some a =>
    refine .found hms ?_
    rw [fit_optional, orNull, Option.map_some, Option.getD_some]
    split
    · rfl
    · exact hfit a rfl

theorem isField_needed {ms : Members} {key : String} {shape : Shape} {v : Value}
    (hms : ms.filter (·.1 == key) = [(key, v)]) (hfit : shape.fit v = some v) :
    IsField ms key shape .needed v :=
  .found hms hfit

theorem filter_optional {α : Type} (key k : String) (toJson : α → Value) (x : Option α) :
    ((x.map fun a => (key, toJson a)).toList).filter (·.1 == k) =
      if key = k then (x.map fun a => (key, toJson a)).toList else [] := by
  cases x <;> simp [List.filter_cons]

/-- Everything a request can hold, in its place. -/
def full (r : SearchRequest) : Members :=
  [("service", orNull .string r.service), ("levels", orNull .ofStrings r.levels),
    ("message_contains", .ofStrings r.messageContains),
    ("metadata", orNull .ofLabels r.metadata), ("sort", .string r.sort),
    ("order", .string r.order.name), ("page", .integer r.page), ("limit", .integer r.limit)]

theorem ofJson?_full (r : SearchRequest) : ofJson? (.object r.full) = some r := by
  have hservice : optional? Value.string? (orNull .string r.service) = some r.service :=
    optional?_orNull (fun _ => by simp) (fun x => show (Value.string x).string? = some x from rfl) _
  have hlevels : optional? strings? (orNull .ofStrings r.levels) = some r.levels :=
    optional?_orNull (by simp [Value.ofStrings]) strings?_ofStrings _
  have hmetadata : optional? Value.labels? (orNull .ofLabels r.metadata) = some r.metadata :=
    optional?_orNull (by simp [Value.ofLabels]) labels?_ofLabels _
  simp [full, ofJson?, hservice, hlevels, hmetadata, strings?_ofStrings, ofName?_name, word?,
    Value.integer]

/-- All members are in shape, and what is not written is null. -/
theorem fit_toJson {r : SearchRequest} (hpage : r.page < 2 ^ 32) (hlimit : r.limit < 2 ^ 32)
    (horder : ∀ labels ∈ r.metadata, Keyed.IsOrdered labels) :
    shape.fit r.toJson = some (.object r.full) := by
  rw [shape, toJson, fit_record, Option.map_eq_some_iff]
  refine ⟨r.full, fitFields_eq_some_iff.mpr ?_, rfl⟩
  refine .cons ⟨rfl, isField_orNull ?_ fun x _ => fit_text x⟩ <|
    .cons ⟨rfl, isField_orNull ?_ fun xs _ => fit_texts xs⟩ <|
    .cons ⟨rfl, isField_needed ?_ (fit_texts _)⟩ <|
    .cons ⟨rfl, isField_orNull ?_ fun labels hlabels => fit_labels (horder labels hlabels)⟩ <|
    .cons ⟨rfl, isField_needed ?_ (fit_text _)⟩ <|
    .cons ⟨rfl, isField_needed ?_ (fit_choice (name_mem r.order))⟩ <|
    .cons ⟨rfl, isField_needed ?_ (fit_word32 hpage)⟩ <|
    .cons ⟨rfl, isField_needed ?_ (fit_word32 hlimit)⟩ .nil
  all_goals simp [filter_optional]

theorem agreesOn_toJson (r : SearchRequest) : shape.AgreesOn r.toJson := by
  have hlist (v : Value) := agreesEarly_list agreesOn_text v
  have hdict (v : Value) := agreesEarly_dict agreesOn_text v
  refine agreesOn_record_of_forall (by decide) ?_ ?_
  · simp [agreesOn_text, agreesOn_choice, agreesOn_word32, (hlist _).agreesOn,
      agreesOn_optional (agreesEarly_text _), agreesOn_optional (hlist _),
      agreesOn_optional (hdict _)]
  · simp [or_imp, forall_and]

theorem isExact_toJson {r : SearchRequest} (hpage : r.page < 2 ^ 32) (hlimit : r.limit < 2 ^ 32) :
    r.toJson.IsExact := by
  simp [toJson, Value.isExact_object, or_imp, forall_and, isExact_string, isExact_texts,
    isExact_labels, isExact_word hpage, isExact_word hlimit]

theorem depth_toJson_le (r : SearchRequest) : r.toJson.depth ≤ 2 := by
  refine Nat.succ_le_succ (Value.memberDepth_le_iff.mpr ?_)
  simp [or_imp, forall_and, depth_texts, depth_labels, Value.depth, Value.integer]

theorem read_of_isTextOf {r : SearchRequest} (hpage : r.page < 2 ^ 32) (hlimit : r.limit < 2 ^ 32)
    (horder : ∀ labels ∈ r.metadata, Keyed.IsOrdered labels) {text : String}
    (htext : IsTextOf r.toJson text) : read text = .ok r := by
  have hdepth : r.toJson.depth ≤ 127 := Nat.le_trans r.depth_toJson_le (by decide)
  have hread : shape.read text = .ok (.object r.full) :=
    (r.agreesOn_toJson.read_eq_ok_iff htext).mpr ⟨hdepth, fit_toJson hpage hlimit horder⟩
  rw [read, hread, ok_bind, ofJson?_full]
  rfl

end SearchRequest

/-! ### Round trips -/

/-- What is written on one line is read as what it was written from. -/
theorem read_toJson_compact :
    (∀ c : Command, (∀ count, c = .limit count → count < 2 ^ 32) →
      Command.read c.toJson.compact = .ok c ∧
      Command.read (Value.object [("params", c.parameters), ("type", .string c.kind)]).compact =
        .ok c) ∧
    (∀ r : SearchRequest, r.page < 2 ^ 32 → r.limit < 2 ^ 32 →
      (∀ labels ∈ r.metadata, Keyed.IsOrdered labels) →
      SearchRequest.read r.toJson.compact = .ok r) := by
  refine ⟨fun c h => ⟨?_, ?_⟩, fun r hpage hlimit horder => ?_⟩
  · apply Command.read_nameFirst h (Json.isTextOf_compact _)
    simp [Command.toJson, taggedValue, Value.isExact_object, isExact_string,
      Command.isExact_parameters h]
  · apply Command.read_contentFirst h (Json.isTextOf_compact _)
    simp [Value.isExact_object, isExact_string, Command.isExact_parameters h]
  · exact SearchRequest.read_of_isTextOf hpage hlimit horder
      (Json.isTextOf_compact (SearchRequest.isExact_toJson hpage hlimit))

/-- The largest page, a pattern with a quotation mark and a line break, and a request without a
service, with an empty list of levels. -/
theorem read_toJson_compact_values :
    (4294967295 < 2 ^ 32 ∧
      Command.read (Command.limit 4294967295).toJson.compact = .ok (.limit 4294967295)) ∧
    Command.read (Value.object
        [("params", (Command.parse ⟨"@message", "\"(.)\n", "é", true⟩).parameters),
          ("type", .string "parse")]).compact =
      .ok (.parse ⟨"@message", "\"(.)\n", "é", true⟩) ∧
    SearchRequest.read (SearchRequest.toJson
        ⟨none, some [], ["a"], some [("a", "\t"), ("b", "")], "", .asc, 0, 7⟩).compact =
      .ok ⟨none, some [], ["a"], some [("a", "\t"), ("b", "")], "", .asc, 0, 7⟩ := by
  refine ⟨⟨by decide, (read_toJson_compact.1 (.limit 4294967295) ?_).1⟩,
    (read_toJson_compact.1 (.parse ⟨"@message", "\"(.)\n", "é", true⟩) ?_).2,
    read_toJson_compact.2 _ (by decide) (by decide) ?_⟩
  · rintro _ ⟨⟩
    decide
  · rintro _ ⟨⟩
  · rintro _ ⟨⟩
    decide

end Logbook.Query
