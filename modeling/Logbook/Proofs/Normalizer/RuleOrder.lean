import Logbook.Proofs.Rule.Exclusive

/-! The order of rules. A rule may be moved past rules that never match together with it. The rule for
syslog is such a rule among those in front of the one for JSON-like lines. -/

namespace Logbook.Normalizer

open Rule.Access (nginx apache)
open Rule.Leveled (log4j jsonLike simple)

variable {text : List Char} {rule : Rule} {before after : List Rule}

theorem matchRules_skip (now : Time.Instant) (h : ¬ rule.Matches text) (before after : List Rule) :
    matchRules ⟨before ++ rule :: after⟩ now text = matchRules ⟨before ++ after⟩ now text := by
  have hnone : rule.apply now text = none := by
    simpa [Rule.apply, Rule.Matches] using h
  simp [matchRules, List.findSome?_append, hnone]

/-- Rules that do not match when this one does may be tried behind it. -/
theorem matchRules_front (now : Time.Instant) (after : List Rule)
    (h : rule.Matches text → ∀ r ∈ before, ¬ r.Matches text) :
    matchRules ⟨before ++ rule :: after⟩ now text = matchRules ⟨rule :: (before ++ after)⟩ now text := by
  by_cases hrule : rule.Matches text
  · obtain ⟨m, hm⟩ := Option.isSome_iff_exists.mp hrule
    have hfront : matchRules ⟨[] ++ rule :: (before ++ after)⟩ now text =
        (rule.draft now m).complete now := matchRules_of_first now (by simp) hm
    rw [matchRules_of_first now (h hrule) hm, ← hfront, List.nil_append]
  · have hfront : matchRules ⟨rule :: (before ++ after)⟩ now text =
        matchRules ⟨before ++ after⟩ now text := matchRules_skip now hrule [] (before ++ after)
    rw [matchRules_skip now hrule before after, hfront]

theorem pairwise_exclusive (text : List Char) :
    [Rule.Syslog.rule, log4j, simple].Pairwise fun r r' => ¬ (r.Matches text ∧ r'.Matches text) := by
  simp only [List.pairwise_cons, List.forall_mem_cons, not_and]
  refine ⟨⟨Rule.syslog_not_log4j, Rule.syslog_not_simple, by simp⟩, ⟨?_, by simp⟩, by simp⟩
  exact Rule.log4j_not_simple

/-- Of the rules for syslog, Log4j and levels in front at most one matches, and with the one for syslog
none for access logs. So it does not matter where the rule for syslog stands among those in front of the
one for JSON-like lines. -/
theorem normalize_of_moved (custom : List Rule) (now : Time.Instant) (line : String)
    (hplace : before ++ after = [nginx, apache, log4j]) :
    ([Rule.Syslog.rule, log4j, simple].Pairwise fun r r' =>
        ¬ (r.Matches line.toList ∧ r'.Matches line.toList)) ∧
      (Rule.Syslog.rule.Matches line.toList →
        ¬ nginx.Matches line.toList ∧ ¬ apache.Matches line.toList) ∧
      normalize ⟨before ++ Rule.Syslog.rule :: (after ++ jsonLike :: simple :: custom)⟩ now line =
        (builtin.extend custom).normalize now line := by
  refine ⟨pairwise_exclusive _, Rule.syslog_not_access, ?_⟩
  have hothers (h : Rule.Syslog.rule.Matches line.toList) :
      ∀ r ∈ [nginx, apache, log4j], ¬ r.Matches line.toList := by
    obtain ⟨hnginx, hapache⟩ := Rule.syslog_not_access h
    simp [hnginx, hapache, Rule.syslog_not_log4j h]
  have hmoved : matchRules ⟨before ++ Rule.Syslog.rule :: (after ++ jsonLike :: simple :: custom)⟩ now
      line.toList = matchRules ⟨Rule.Syslog.rule :: ([nginx, apache, log4j] ++
        jsonLike :: simple :: custom)⟩ now line.toList := by
    rw [matchRules_front now _ fun h r hr => hothers h r (hplace ▸ List.mem_append_left _ hr),
      ← List.append_assoc, hplace]
  have hextend : builtin.extend custom =
      ⟨[nginx, apache] ++ Rule.Syslog.rule :: log4j :: jsonLike :: simple :: custom⟩ := rfl
  have hbuiltin : (builtin.extend custom).matchRules now line.toList =
      matchRules ⟨Rule.Syslog.rule :: ([nginx, apache] ++ log4j :: jsonLike :: simple :: custom)⟩ now
        line.toList := by
    rw [hextend]
    exact matchRules_front now _ fun h => by simpa using Rule.syslog_not_access h
  rw [normalize_eq, normalize_eq, hmoved, hbuiltin]
  rfl

/-- The host begins like the time of an access log, and the message like what follows that time. -/
def bracketLine : Rule.SyslogLine where
  priority := "34"
  month := ⟨9, by decide⟩
  day := "11"
  hour := "22"
  minute := "14"
  second := "15"
  host := "[10/Oct/2000"
  process := "su"
  pid := "7"
  message := "-0700] \"GET\" 200 1"

theorem normalize_of_moved_bracketLine :
    [nginx] ++ [apache, log4j] = [nginx, apache, log4j] ∧
      Rule.Syslog.rule.Matches bracketLine.text.toList ∧ ¬ apache.Matches bracketLine.text.toList ∧
      normalize ⟨[nginx, Rule.Syslog.rule, apache, log4j, jsonLike, simple]⟩ ⟨0, 0⟩ bracketLine.text =
        (builtin.extend []).normalize ⟨0, 0⟩ bracketLine.text := by
  have hplace : [nginx] ++ [apache, log4j] = [nginx, apache, log4j] := rfl
  have hwritten : bracketLine.IsWritten := by constructor <;> decide
  obtain ⟨m, hm, -⟩ := bracketLine.find?_text hwritten
  have hmatches : Rule.Syslog.rule.Matches bracketLine.text.toList :=
    Option.isSome_iff_exists.mpr ⟨m, hm⟩
  obtain ⟨-, haccess, hmoved⟩ := normalize_of_moved [] ⟨0, 0⟩ bracketLine.text hplace
  exact ⟨hplace, hmatches, (haccess hmatches).2, hmoved⟩

end Logbook.Normalizer
