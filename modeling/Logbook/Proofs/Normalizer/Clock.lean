import Logbook.Proofs.Normalizer.SyslogLine

/-! The same input at two times. The clock fills in a time where none was found, and gives the times
of syslog lines their year. So two records of one input can differ in nothing but the timestamp. -/

namespace Logbook

open Json (Members)

/-! ### Records -/

/-- Two records that differ in their timestamps at most. If they do, each has the time of its clock,
or the year of the clock made the difference. -/
structure Record.DifferInTime (now now' : Time.Instant) (byYear : Prop) (r r' : Record) : Prop where
  level : r.level = r'.level
  message : r.message = r'.message
  service : r.service = r'.service
  metadata : r.metadata = r'.metadata
  timestamp : r.timestamp = r'.timestamp ∨
    (r.timestamp = now.text ∧ r'.timestamp = now'.text) ∨ byYear

theorem Draft.filled_cases (text : Option String) (a b : String) :
    filled text a = filled text b ∨ filled text a = a ∧ filled text b = b := by
  rw [filled, filled]
  cases text.filter (· != "") with
  | none => exact .inr ⟨rfl, rfl⟩
  | some t => exact .inl rfl

variable {now now' : Time.Instant} {byYear : Prop}

theorem Record.DifferInTime.imp {byYear' : Prop} {r r' : Record} (h : byYear → byYear')
    (hdiffer : DifferInTime now now' byYear r r') : DifferInTime now now' byYear' r r' :=
  { hdiffer with timestamp := hdiffer.timestamp.imp_right (Or.imp_right h) }

theorem differInTime_complete (d : Draft) :
    Record.DifferInTime now now' byYear (d.complete now) (d.complete now') where
  level := rfl
  message := rfl
  service := rfl
  metadata := rfl
  timestamp := (Draft.filled_cases d.timestamp now.text now'.text).imp_right .inl

/-! ### Rules -/

namespace Rule

/-- The year is all that a syslog line takes from the clock. -/
theorem Syslog.draft_congr (h : now.date.year = now'.date.year) (m : Pattern.Match) :
    draft now m = draft now' m := by
  rw [draft, draft, timestamp, timestamp, h]

theorem differInTime_syslog (m : Pattern.Match) :
    Record.DifferInTime now now' (now.date.year ≠ now'.date.year)
      ((Syslog.draft now m).complete now) ((Syslog.draft now' m).complete now') := by
  by_cases hyear : now.date.year = now'.date.year
  · rw [Syslog.draft_congr hyear]
    exact differInTime_complete _
  · exact ⟨rfl, rfl, rfl, rfl, .inr (.inr hyear)⟩

/-- Built in, or built from settings. -/
def IsStandard (rule : Rule) : Prop :=
  rule ∈ Normalizer.builtinRules ∨ ∃ s : Settings, s.build = .ok rule

theorem draft_of_build {s : Settings} {rule : Rule} (h : s.build = .ok rule) (m : Pattern.Match) :
    rule.draft now m = rule.draft now' m := by
  rw [Settings.build] at h
  cases hp : Pattern.compile s.pattern with
  | error cause => simp [hp] at h
  | ok p =>
    rw [hp] at h
    obtain rfl := Except.ok.inj h
    rfl

/-- Of all standard rules only the one for syslog looks at the clock. -/
theorem IsStandard.differInTime {rule : Rule} (h : rule.IsStandard) (m : Pattern.Match) :
    Record.DifferInTime now now' (rule = Syslog.rule ∧ now.date.year ≠ now'.date.year)
      ((rule.draft now m).complete now) ((rule.draft now' m).complete now') := by
  rcases h with h | ⟨s, hs⟩
  · simp only [Normalizer.builtinRules, List.mem_cons, List.not_mem_nil, or_false] at h
    rcases h with rfl | rfl | rfl | rfl | rfl | rfl
    case inr.inr.inl => exact (differInTime_syslog m).imp fun hyear => ⟨rfl, hyear⟩
    all_goals exact differInTime_complete _
  · rw [draft_of_build hs m]
    exact differInTime_complete _

end Rule

namespace Normalizer

/-- The rule that an input goes to: the input is no record already, and of the rules that match
this is the first. -/
structure Decides (n : Normalizer) (i : Input) (rule : Rule) : Prop where
  unstructured : ¬ i.IsStructured
  first : ∃ before after, n.rules = before ++ rule :: after ∧ ∀ r ∈ before, ¬ r.Matches i.text
  isMatch : rule.Matches i.text

/-- The clock only completes what an object says. -/
theorem exists_draft (members : Members) :
    ∃ d : Option Draft, ∀ now, Record.ofMembers? now members = d.map (Draft.complete now) := by
  simp only [Record.ofMembers?]
  cases Record.textMember? members "level" with
  | none => exact ⟨none, fun _ => rfl⟩
  | some level =>
    cases Record.textMember? members "message" with
    | none => exact ⟨none, fun _ => rfl⟩
    | some message => exact ⟨some _, fun _ => rfl⟩

/-- Of the rules that match a text, one is the first. -/
theorem exists_first {rules : List Rule} {text : List Char}
    (h : ∃ rule ∈ rules, rule.Matches text) :
    ∃ before rule after m, rules = before ++ rule :: after ∧
      (∀ r ∈ before, ¬ r.Matches text) ∧ rule.pattern.find? text = some m := by
  have hsome : (rules.find? fun rule => rule.Matches text).isSome := by
    simpa [List.find?_isSome] using h
  obtain ⟨rule, hrule⟩ := Option.isSome_iff_exists.mp hsome
  obtain ⟨hmatches, before, after, hrules, hbefore⟩ := List.find?_eq_some_iff_append.mp hrule
  obtain ⟨m, hm⟩ := Option.isSome_iff_exists.mp (of_decide_eq_true hmatches)
  exact ⟨before, rule, after, m, hrules, by simpa using hbefore, hm⟩

/-- Whatever the clock says, only the timestamp of a record depends on it. -/
theorem record_differInTime {n : Normalizer} (hrules : ∀ rule ∈ n.rules, rule.IsStandard)
    (i : Input) (now now' : Time.Instant) :
    (n.record now i).DifferInTime now now'
      (n.Decides i Rule.Syslog.rule ∧ now.date.year ≠ now'.date.year) (n.record now' i) := by
  rw [record_eq, record_eq]
  by_cases hstructured : i.IsStructured
  · obtain ⟨members, hobject, hmembers⟩ := hstructured
    obtain ⟨d, hd⟩ := exists_draft members
    have hsome := (Record.isSome_ofMembers?_iff now).mpr hmembers
    rw [hd] at hsome
    obtain ⟨d, rfl⟩ := Option.isSome_iff_exists.mp (Option.isSome_map ▸ hsome)
    rw [hobject, Option.bind_some, Option.bind_some, hd, hd]
    exact differInTime_complete d
  · have hnone (now : Time.Instant) : i.object?.bind (Record.ofMembers? now) = none := by
      simpa [isStructured_iff_isSome now] using hstructured
    rw [hnone, hnone, Option.getD_none, Option.getD_none]
    by_cases hmatch : ∃ rule ∈ n.rules, rule.Matches i.text
    · obtain ⟨before, rule, after, m, hsplit, hbefore, hm⟩ := exists_first hmatch
      obtain ⟨rules⟩ := n
      subst hsplit
      rw [matchRules_of_first now hbefore hm, matchRules_of_first now' hbefore hm]
      refine ((hrules rule (by simp)).differInTime m).imp ?_
      rintro ⟨rfl, hyear⟩
      exact ⟨⟨hstructured, ⟨before, after, rfl, hbefore⟩, by rw [Rule.Matches, hm]; rfl⟩, hyear⟩
    · have hnot : ∀ rule ∈ n.rules, ¬ rule.Matches i.text := by simpa using hmatch
      rw [matchRules_of_none now hnot, matchRules_of_none now' hnot]
      exact differInTime_complete _

/-- The leap day stays as it is written in 1970, and is read in 2000. -/
theorem record_differInTime_leapDay :
    (builtin.record ⟨0, 0⟩ (.line leapLine.text)).timestamp = "Feb 29 23:59:09" ∧
      (builtin.record ⟨951782400, 0⟩ (.line leapLine.text)).timestamp =
        "2000-02-29T23:59:09.000Z" ∧
      (builtin.record ⟨0, 0⟩ (.line leapLine.text)).message =
        (builtin.record ⟨951782400, 0⟩ (.line leapLine.text)).message ∧
      builtin.Decides (.line leapLine.text) Rule.Syslog.rule := by
  have hwritten : leapLine.IsWritten := by constructor <;> decide
  have htimestamp (now : Time.Instant) :
      (builtin.record now (.line leapLine.text)).timestamp =
        Draft.filled (Rule.Syslog.timestamp now leapLine.time.toList) now.text := by
    obtain ⟨m, hm, hdraft⟩ := leapLine.draft_text hwritten now
    have hmatch : Rule.Syslog.rule.Matches leapLine.text.toList :=
      Option.isSome_iff_exists.mpr ⟨m, hm⟩
    have haccess : ∀ r ∈ [Rule.Access.nginx, Rule.Access.apache],
        ¬ r.Matches leapLine.text.toList := by
      simpa using Rule.syslog_not_access hmatch
    have hrecord := normalize_of_first [] now _ (lineObject?_syslogText leapLine) rfl haccess hm
    rw [hdraft] at hrecord
    exact congrArg Record.timestamp hrecord
  have hwrittenTime : (builtin.record ⟨0, 0⟩ (.line leapLine.text)).timestamp =
      "Feb 29 23:59:09" := by
    rw [htimestamp]
    decide
  have hreadTime : (builtin.record ⟨951782400, 0⟩ (.line leapLine.text)).timestamp =
      "2000-02-29T23:59:09.000Z" := by
    rw [htimestamp]
    decide
  have hstandard : ∀ rule ∈ builtin.rules, rule.IsStandard := fun _ hrule => .inl hrule
  have hdiffer := record_differInTime hstandard (.line leapLine.text) ⟨0, 0⟩ ⟨951782400, 0⟩
  refine ⟨hwrittenTime, hreadTime, hdiffer.message, ?_⟩
  rcases hdiffer.timestamp with hsame | ⟨hclock, -⟩ | hyear
  · rw [hwrittenTime, hreadTime] at hsame
    exact absurd hsame (by decide)
  · rw [hwrittenTime] at hclock
    exact absurd hclock (by decide)
  · exact hyear.1

end Normalizer

end Logbook
