import Logbook.Proofs.Normalizer.Extension
import Logbook.Proofs.Result

/-! A normalizer in use, from its settings on: rules are registered between the inputs it is given.
A rule that cannot be built is not added and leaves no trace. Every record is that of a normalizer
made at once with the rules there are by then. -/

namespace Logbook

/-! ### Building rules -/

namespace Rule.Settings

/-- The first rule that is enabled and has a pattern that is refused. -/
inductive IsFirstRefused : List Settings → Refused → Prop where
  | refused {before after : List Settings} {s : Settings} {cause : Pattern.Refusal}
      (hbefore : ∀ r ∈ before, r.enabled = true → ∃ p, Pattern.compile r.pattern = .ok p)
      (henabled : s.enabled = true) (hcause : Pattern.compile s.pattern = .error cause) :
      IsFirstRefused (before ++ s :: after) ⟨s.name, cause⟩

theorem build_of_ok {s : Settings} {p : Pattern} (h : Pattern.compile s.pattern = .ok p) :
    s.build = .ok ⟨s.name, p, fun _ m => s.draft p m⟩ := by
  rw [build, h]

theorem build_of_error {s : Settings} {cause : Pattern.Refusal}
    (h : Pattern.compile s.pattern = .error cause) : s.build = .error ⟨s.name, cause⟩ := by
  rw [build, h]

theorem exists_build_iff {s : Settings} :
    (∃ rule, s.build = .ok rule) ↔ ∃ p, Pattern.compile s.pattern = .ok p := by
  cases h : Pattern.compile s.pattern with
  | ok p => simp [build_of_ok h]
  | error cause => simp [build_of_error h]

theorem build_eq_error_iff {s : Settings} {refused : Refused} :
    s.build = .error refused ↔
      ∃ cause, Pattern.compile s.pattern = .error cause ∧ ⟨s.name, cause⟩ = refused := by
  cases h : Pattern.compile s.pattern with
  | ok p => simp [build_of_ok h]
  | error cause => simp [build_of_error h]

/-- Disabled rules are passed over. -/
theorem buildAll_eq_error_iff {settings : List Settings} {refused : Refused} :
    buildAll settings = .error refused ↔ IsFirstRefused settings refused := by
  rw [buildAll, mapM_eq_error_iff]
  constructor
  · rintro ⟨enabledBefore, s, enabledAfter, hsettings, hbefore, hs⟩
    obtain ⟨before, others, rfl, rfl, hothers⟩ := List.filter_eq_append_iff.mp hsettings
    obtain ⟨skipped, after, rfl, hskipped, henabled, -⟩ := List.filter_eq_cons_iff.mp hothers
    obtain ⟨cause, hcause, rfl⟩ := build_eq_error_iff.mp hs
    rw [← List.append_assoc]
    refine .refused (fun r hr hon => ?_) henabled hcause
    rcases List.mem_append.mp hr with hr | hr
    · exact exists_build_iff.mp (hbefore r (List.mem_filter.mpr ⟨hr, hon⟩))
    · exact absurd hon (hskipped r hr)
  · intro h
    cases h with
    | @refused before after s cause hbefore henabled hcause =>
      refine ⟨before.filter (·.enabled), s, after.filter (·.enabled), ?_, ?_,
        build_of_error hcause⟩
      · rw [List.filter_append, List.filter_cons_of_pos henabled]
      · intro r hr
        obtain ⟨hr, hon⟩ := List.mem_filter.mp hr
        exact exists_build_iff.mpr (hbefore r hr hon)

theorem exists_refused_iff {settings : List Settings} :
    (∃ refused, buildAll settings = .error refused) ↔
      ∃ s ∈ settings, s.enabled = true ∧ ∃ cause, Pattern.compile s.pattern = .error cause := by
  constructor
  · rintro ⟨refused, h⟩
    cases buildAll_eq_error_iff.mp h with
    | refused _ henabled hcause => exact ⟨_, by simp, henabled, _, hcause⟩
  · rintro ⟨s, hs, henabled, cause, hcause⟩
    cases h : buildAll settings with
    | error refused => exact ⟨refused, rfl⟩
    | ok rules =>
      obtain ⟨rule, hrule⟩ := exists_of_mapM_eq_ok h s (List.mem_filter.mpr ⟨hs, henabled⟩)
      simp [build_of_error hcause] at hrule

end Rule.Settings

namespace Normalizer

/-! ### Sessions -/

/-- What can happen to a normalizer in use. -/
inductive Event where
  | register (s : Rule.Settings)
  | normalize (now : Time.Instant) (i : Input)

inductive Answer where
  | added
  | refused (r : Rule.Refused)
  | record (r : Record)

/-- A rule that cannot be built is not added. -/
def step (n : Normalizer) : Event → Normalizer
  | .register s =>
    match s.build with
    | .ok rule => n.addRule rule
    | .error _ => n
  | .normalize _ _ => n

def answer (n : Normalizer) : Event → Answer
  | .register s =>
    match s.build with
    | .ok _ => .added
    | .error r => .refused r
  | .normalize now i => .record (n.record now i)

/-- The normalizer after some events. -/
def run (n : Normalizer) : List Event → Normalizer
  | [] => n
  | e :: events => (n.step e).run events

def answers (n : Normalizer) : List Event → List Answer
  | [] => []
  | e :: events => n.answer e :: (n.step e).answers events

/-- The rule that an event adds. -/
def Event.rule? : Event → Option Rule
  | register s => s.build.toOption
  | normalize _ _ => none

/-- The rules that events add, in their order. -/
def built (events : List Event) : List Rule := events.filterMap Event.rule?

variable {n : Normalizer}

theorem step_eq (n : Normalizer) (e : Event) : n.step e = n.extend e.rule?.toList := by
  cases e with
  | normalize now i => simp [step, Event.rule?, extend]
  | register s =>
    cases h : s.build with
    | ok rule => simp [step, Event.rule?, h, addRule, extend, Except.toOption]
    | error r => simp [step, Event.rule?, h, extend, Except.toOption]

theorem built_cons (e : Event) (events : List Event) :
    built (e :: events) = e.rule?.toList ++ built events := by
  rw [built, List.filterMap_cons]
  cases e.rule? <;> rfl

theorem run_eq (n : Normalizer) (events : List Event) : n.run events = n.extend (built events) := by
  induction events generalizing n with
  | nil => simp [run, built, extend]
  | cons e events ih => simp [run, ih, step_eq, built_cons, extend]

theorem answers_append (n : Normalizer) (before events : List Event) :
    n.answers (before ++ events) = n.answers before ++ (n.run before).answers events := by
  induction before generalizing n with
  | nil => rfl
  | cons e before ih => simp [answers, run, ih]

theorem length_answers (n : Normalizer) (events : List Event) :
    (n.answers events).length = events.length := by
  induction events generalizing n with
  | nil => rfl
  | cons e events ih => simp [answers, ih]

/-- The normalizer holds the built-in rules, those that were configured and those that have been
registered. An attempt that fails leaves no trace but its own answer, and every record is that of a
normalizer made with the rules there are by then. -/
structure Serves (n : Normalizer) (configured : List Rule) : Prop where
  rules : ∀ events, (n.run events).rules = builtinRules ++ configured ++ built events
  refused : ∀ before s cause after, Pattern.compile s.pattern = .error cause →
    (n.answers (before ++ .register s :: after)).eraseIdx before.length =
      n.answers (before ++ after)
  records : ∀ before now i after,
    (n.answers (before ++ .normalize now i :: after))[before.length]? =
      some (.record ((builtin.extend (configured ++ built before)).record now i))

theorem serves_extend (configured : List Rule) : (builtin.extend configured).Serves configured where
  rules events := by rw [run_eq]; rfl
  refused before s cause after h := by
    have hstep : ((builtin.extend configured).run before).step (.register s) =
        (builtin.extend configured).run before := by
      rw [step, Rule.Settings.build_of_error h]
    rw [answers_append, answers_append, ← length_answers (builtin.extend configured) before,
      List.eraseIdx_append_of_length_le (Nat.le_refl _), Nat.sub_self, answers, hstep]
    rfl
  records before now i after := by
    rw [answers_append, ← length_answers (builtin.extend configured) before,
      List.getElem?_append_right (Nat.le_refl _), Nat.sub_self, answers, run_eq, answer]
    simp [extend]

/-- Only an enabled rule whose pattern is refused keeps a configuration from being used, and the
first of them is named. What is disabled does not matter. -/
theorem ofSettings_serves (settings : List Rule.Settings) :
    ((∃ refused, ofSettings settings = .error refused) ↔
      ∃ s ∈ settings, s.enabled = true ∧ ∃ cause, Pattern.compile s.pattern = .error cause) ∧
    (∀ refused, ofSettings settings = .error refused ↔
      Rule.Settings.IsFirstRefused settings refused) ∧
    (∀ others : List Rule.Settings, others.filter (·.enabled) = settings.filter (·.enabled) →
      ofSettings others = ofSettings settings) ∧
    ∀ n, ofSettings settings = .ok n → ∃ configured,
      List.Forall₂ (fun s rule => s.build = .ok rule) (settings.filter (·.enabled)) configured ∧
        n.Serves configured := by
  refine ⟨?_, fun refused => ?_, fun others hsame => ?_, fun n hn => ?_⟩
  · simp only [ofSettings, map_eq_error_iff]
    exact Rule.Settings.exists_refused_iff
  · rw [ofSettings, map_eq_error_iff, Rule.Settings.buildAll_eq_error_iff]
  · rw [ofSettings, ofSettings, Rule.Settings.buildAll, hsame, Rule.Settings.buildAll]
  · rw [ofSettings, map_eq_ok_iff] at hn
    obtain ⟨configured, hconfigured, rfl⟩ := hn
    exact ⟨configured, mapM_eq_ok_iff.mp hconfigured, serves_extend configured⟩

def brokenSettings : Rule.Settings := { greedySettings with name := "broken", pattern := "(" }

/-- The pattern of a rule that is enabled is refused. Disabled, the rule does not matter, and an
attempt to register it does not either. -/
theorem ofSettings_serves_broken :
    (∃ cause, ofSettings [greedySettings, brokenSettings] = .error ⟨"broken", cause⟩) ∧
    ∃ n configured, ofSettings [{ brokenSettings with enabled := false }, greedySettings] = .ok n ∧
      List.length configured = 1 ∧
      (n.answers [.register brokenSettings, .normalize ⟨0, 0⟩ (.line "x")]).eraseIdx 0 =
        [.record ((builtin.extend configured).record ⟨0, 0⟩ (.line "x"))] := by
  obtain ⟨p, hp⟩ : ∃ p, Pattern.compile greedySettings.pattern = .ok p :=
    exists_ok (by decide)
  obtain ⟨cause, hcause⟩ : ∃ cause, Pattern.compile brokenSettings.pattern = .error cause :=
    exists_error (by decide)
  refine ⟨⟨cause, ?first⟩, ?second⟩
  case first =>
    have hfirst : Rule.Settings.IsFirstRefused ([greedySettings] ++ [brokenSettings])
        ⟨"broken", cause⟩ := by
      refine .refused (fun r hr _ => ⟨p, ?_⟩) rfl hcause
      rw [List.mem_singleton.mp hr, hp]
    exact ((ofSettings_serves [greedySettings, brokenSettings]).2.1 _).mpr hfirst
  case second =>
    have hsettings := ofSettings_serves [{ brokenSettings with enabled := false }, greedySettings]
    cases hn : ofSettings [{ brokenSettings with enabled := false }, greedySettings] with
    | error refused =>
      obtain ⟨s, hs, henabled, cause', hcause'⟩ := hsettings.1.mp ⟨refused, hn⟩
      simp only [List.mem_cons, List.not_mem_nil, or_false] at hs
      rcases hs with rfl | rfl
      · cases henabled
      · simp [hp] at hcause'
    | ok n =>
      obtain ⟨configured, hconfigured, hserves⟩ := hsettings.2.2.2 n hn
      refine ⟨n, configured, rfl, hconfigured.length_eq.symm, ?_⟩
      have hrefused := hserves.refused [] _ _ [.normalize ⟨0, 0⟩ (.line "x")] hcause
      have hrecord := hserves.records [] ⟨0, 0⟩ (.line "x") []
      have hanswers : n.answers [.normalize ⟨0, 0⟩ (.line "x")] =
          [.record ((builtin.extend configured).record ⟨0, 0⟩ (.line "x"))] := by
        simpa [answers, built] using hrecord
      exact hrefused.trans hanswers

end Normalizer

end Logbook
