import Logbook.Normalizer
import Logbook.Proofs.Json.Value
import Logbook.Proofs.Result

/-! The metadata that rules write. The built-in rules and the rules that settings define store
texts and small integers under their keys, so their metadata is written and read exactly. -/

namespace Logbook

open Json (Value Members)

namespace Rule

theorem number?_lt {m : Pattern.Match} {i bound n : Nat} (h : number? m i bound = some n) :
    n < bound := by
  simp only [number?, Option.filter_eq_some_iff, decide_eq_true_eq] at h
  exact h.2

theorem number?_getD_lt (m : Pattern.Match) (i : Nat) {bound : Nat} (h : 0 < bound) :
    (number? m i bound).getD 0 < bound := by
  cases hn : number? m i bound with
  | none => exact h
  | some n => exact number?_lt hn

theorem isScalar_natCast {n bound : Nat} (h : n < bound) (hbound : bound ≤ UInt64.size) :
    (Value.integer n).IsScalar := by
  rw [UInt64.size] at hbound
  exact .integer n ⟨by omega, by omega⟩

/-- Whatever is matched, the metadata is in order and holds texts and small integers only. -/
structure HasScalars (rule : Rule) : Prop where
  ordered : ∀ now m, Keyed.IsOrdered (rule.draft now m).metadata
  scalars : ∀ now m, ∀ member ∈ (rule.draft now m).metadata, member.2.IsScalar

/-- Whatever is matched, the metadata is canonical and without doubles. -/
def IsExact (rule : Rule) : Prop := ∀ now m, (rule.draft now m).metadata.IsExact

theorem HasScalars.isExact {rule : Rule} (h : rule.HasScalars) : rule.IsExact :=
  fun now m => Members.isExact_of_scalars (h.ordered now m) (h.scalars now m)

/-! ### Built-in rules -/

theorem scalars_clientFields (m : Pattern.Match) :
    ∀ member ∈ Access.clientFields m, member.2.IsScalar := by
  simp only [Access.clientFields, List.forall_mem_cons]
  exact ⟨.string _, .string _, isScalar_natCast (number?_getD_lt m 6 (by decide)) (by decide),
    isScalar_natCast (number?_getD_lt m 7 (by decide)) (by decide), by simp⟩

theorem scalars_agentFields (m : Pattern.Match) :
    ∀ member ∈ Access.agentFields m, member.2.IsScalar := by
  simp only [Access.agentFields, List.forall_mem_cons]
  exact ⟨.string _, .string _, by simp⟩

theorem hasScalars_nginx : Access.nginx.HasScalars where
  ordered _ _ := Keyed.isOrdered_ofList _
  scalars _ m member hm := by
    rcases List.mem_append.mp (Keyed.mem_ofList hm) with hm | hm
    · exact scalars_clientFields m member hm
    · exact scalars_agentFields m member hm

theorem hasScalars_apache : Access.apache.HasScalars where
  ordered _ _ := Keyed.isOrdered_ofList _
  scalars _ m member hm := scalars_clientFields m member (Keyed.mem_ofList hm)

theorem hasScalars_syslog : Syslog.rule.HasScalars where
  ordered _ _ := Keyed.isOrdered_ofList _
  scalars _ m member hm := by
    have hmember := Keyed.mem_ofList hm
    simp only [Syslog.metadata, List.mem_append, List.mem_singleton, Option.mem_toList,
      Option.map_eq_some_iff] at hmember
    rcases hmember with (rfl | ⟨pid, hpid, rfl⟩) | hpriority
    · exact .string _
    · obtain ⟨p, hp, hpid⟩ := Option.bind_eq_some_iff.mp hpid
      obtain rfl : (p : Int) = pid := Option.some.inj hpid
      exact isScalar_natCast (number?_lt hp) (by decide)
    · cases hp : number? m 1 UInt8.size with
      | none =>
        rw [hp] at hpriority
        simp at hpriority
      | some p =>
        have hlt := number?_lt hp
        rw [hp] at hpriority
        have hcases : member = ("priority", Value.integer p) ∨
            member = ("facility", Value.integer (p / 8 : Nat)) := by
          simpa using hpriority
        rcases hcases with rfl | rfl
        · exact isScalar_natCast hlt (by decide)
        · exact isScalar_natCast (Nat.lt_of_le_of_lt (Nat.div_le_self p 8) hlt) (by decide)

theorem hasScalars_log4j : Leveled.log4j.HasScalars where
  ordered _ _ := List.pairwise_singleton _ _
  scalars _ m member hm := by
    rw [List.mem_singleton.mp hm]
    exact .string _

theorem hasScalars_of_empty {rule : Rule} (h : ∀ now m, (rule.draft now m).metadata = []) :
    rule.HasScalars where
  ordered now m := by
    rw [h]
    exact List.Pairwise.nil
  scalars now m member hm := by simp [h] at hm

theorem hasScalars_of_mem_builtinRules {rule : Rule} (h : rule ∈ Normalizer.builtinRules) :
    rule.HasScalars := by
  simp only [Normalizer.builtinRules, List.mem_cons, List.not_mem_nil, or_false] at h
  rcases h with rfl | rfl | rfl | rfl | rfl | rfl
  · exact hasScalars_nginx
  · exact hasScalars_apache
  · exact hasScalars_syslog
  · exact hasScalars_log4j
  · exact hasScalars_of_empty fun _ _ => rfl
  · exact hasScalars_of_empty fun _ _ => rfl

/-! ### Rules that settings define -/

theorem hasScalars_of_build {s : Settings} {rule : Rule} (h : s.build = .ok rule) :
    rule.HasScalars := by
  unfold Settings.build at h
  split at h
  · obtain rfl := Except.ok.inj h
    constructor
    · exact fun _ _ => Keyed.isOrdered_ofList _
    · intro _ m member hm
      obtain ⟨label, -, htext⟩ := List.mem_filterMap.mp (Keyed.mem_ofList hm)
      obtain ⟨text, -, rfl⟩ := Option.map_eq_some_iff.mp htext
      exact .string text
  · cases h

theorem hasScalars_of_buildAll {settings : List Settings} {rules : List Rule}
    (h : Settings.buildAll settings = .ok rules) : ∀ rule ∈ rules, rule.HasScalars :=
  forall_of_mapM_eq_ok h fun _ _ => hasScalars_of_build

end Rule

end Logbook
