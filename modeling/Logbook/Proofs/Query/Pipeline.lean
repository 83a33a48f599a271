import Logbook.Proofs.Pattern.Glob
import Logbook.Proofs.Query.Arguments
import Mathlib.Data.List.Forall2

/-! Compiling a query that was written from commands gives these commands. Each stage is read on
its own: its keyword ends at the space behind it, and the readers of arguments undo the writing. -/

namespace Logbook.Query

open Text

theorem readArguments_parse (rest : List Char) :
    readArguments "parse" rest =
      match (readParse rest).compile with
      | .ok _ => .ok (.parse (readParse rest))
      | .error err => .error err := by
  rfl

theorem readArguments_written {c : Command} (h : c.HasWritableParts) :
    readArguments c.kind c.arguments = .ok c := by
  cases c with
  | fields names =>
    change Except.ok (Command.fields (readFields _)) = _
    rw [Command.arguments, readFields_writtenList h]
  | filter f =>
    change Except.ok (Command.filter (readFilter _)) = _
    rw [readFilter_arguments h]
  | stats s =>
    change Except.ok (Command.stats (readStats _)) = _
    rw [readStats_arguments h]
  | sort s =>
    change Except.ok (Command.sort (readSort _)) = _
    rw [readSort_arguments h]
  | limit count =>
    change Except.ok (Command.limit (readLimit _)) = _
    rw [readLimit_arguments h.1 h.2]
  | parse e =>
    obtain ⟨p, hp⟩ := Extraction.exists_compile h.glob h.fits
    rw [Command.kind, readArguments_parse, readParse_arguments h, hp]

theorem writtenList_cons_cons (a b : String) (names : List String) :
    Command.writtenList (a :: b :: names) =
      a.toList ++ [',', ' '] ++ Command.writtenList (b :: names) :=
  List.intercalate_cons_cons

theorem writtenList_ne_nil {names : List String} (hne : names ≠ [])
    (h : ∀ name ∈ names, IsItem name) : Command.writtenList names ≠ [] := by
  match names with
  | [a] => simpa [Command.writtenList] using (h a (by simp)).nonempty
  | a :: b :: names => simp [writtenList_cons_cons]

theorem isTrimmed_writtenList {names : List String} (h : ∀ name ∈ names, IsItem name) :
    IsTrimmed (Command.writtenList names) := by
  induction names with
  | nil => decide
  | cons a names ih =>
    have ha := h a (by simp)
    have hrest : ∀ name ∈ names, IsItem name := fun name hm => h name (by simp [hm])
    cases names with
    | nil => simpa [Command.writtenList] using ha.trimmed
    | cons b names =>
      rw [writtenList_cons_cons]
      exact ha.trimmed.append (ih hrest) (toList_ne_nil ha.nonempty)
        (writtenList_ne_nil (by simp) hrest) _

/-- Arguments begin and end with what is not white space. -/
theorem isTrimmed_arguments {c : Command} (h : c.HasWritableParts) : IsTrimmed c.arguments := by
  cases c with
  | fields names => exact isTrimmed_writtenList h
  | filter f =>
    have hquotes : Command.inQuotes f.value ≠ [] := by simp [Command.inQuotes]
    have ht := h.field.isTrimmed.append (isTrimmed_inQuotes f.value)
      (toList_ne_nil h.field.nonempty) hquotes f.operator.spaced
    rwa [List.append_assoc] at ht
  | stats s =>
    have hcall := isTrimmed_call s.field.toList h.function
    have hgroups := isTrimmed_writtenList h.groups
    cases hs : s.groupBy with
    | nil => simpa [Command.arguments, hs] using hcall
    | cons g groups =>
      have hne := writtenList_ne_nil (by simp [hs]) h.groups
      have ht := hcall.append hgroups (by simp) hne " by ".toList
      simpa [Command.arguments, hs] using ht
  | sort s =>
    have ht := h.field.isTrimmed.append h.direction.isTrimmed (toList_ne_nil h.field.nonempty)
      (toList_ne_nil h.direction.nonempty) [' ']
    rwa [List.append_assoc] at ht
  | limit count =>
    exact isTrimmed_of_not_blank fun _ hd => isBlank_of_isDigit (isDigit_of_mem_toDigits hd)
  | parse e =>
    have ht := (isTrimmed_field_inQuotes h.field e.pattern).append h.trimmed (by simp)
      (toList_ne_nil h.nonempty) " as ".toList
    rwa [List.append_assoc] at ht

def keywords : List String := ["fields", "filter", "stats", "sort", "limit", "parse"]

/-- A word in lower case, given by its characters. -/
theorem isWord_ofList {s : List Char} (hne : s ≠ []) (hblank : s.any isBlank = false)
    (hlower : lower s = s) :
    IsWord (String.ofList s) ∧ String.ofList (lower (String.ofList s).toList) = String.ofList s := by
  rw [String.toList_ofList, hlower]
  exact ⟨⟨by simpa using hne, by simpa [List.any_eq_false] using hblank⟩, rfl⟩

theorem keyword_word : ∀ k ∈ keywords, IsWord k ∧ String.ofList (lower k.toList) = k := by
  simp only [keywords, List.forall_mem_cons]
  exact ⟨isWord_ofList (by decide) (by decide) (by decide),
    isWord_ofList (by decide) (by decide) (by decide),
    isWord_ofList (by decide) (by decide) (by decide),
    isWord_ofList (by decide) (by decide) (by decide),
    isWord_ofList (by decide) (by decide) (by decide),
    isWord_ofList (by decide) (by decide) (by decide), by simp⟩

theorem Command.kind_mem_keywords (c : Command) : c.kind ∈ keywords := by
  cases c <;> simp [keywords, kind]

theorem cutKeyword_trim {keyword arguments : List Char} (hne : keyword ≠ [])
    (hkeyword : ∀ c ∈ keyword, isBlank c = false) (harguments : IsTrimmed arguments) :
    cutKeyword (trim (keyword ++ ' ' :: arguments)) = (keyword, arguments) := by
  have ht := isTrimmed_of_not_blank hkeyword
  by_cases ha : arguments = []
  · have hblank : ∀ c ∈ [' '], isBlank c = true := by simp
    have htrim : trim (keyword ++ [' ']) = keyword := by
      rw [trim_append_blank keyword hblank, ht]
    have hcut : cutAt? isBlank keyword = none := cutAt?_eq_none_iff.mpr hkeyword
    rw [ha, htrim, cutKeyword, hcut]
  · have htrim : trim (keyword ++ [' '] ++ arguments) = _ := ht.append harguments hne ha [' ']
    have hcut := cutAt?_append_cons (p := isBlank) (c := ' ') keyword arguments hkeyword
      isBlank_space
    have harg : trim arguments = arguments := harguments
    rw [List.append_assoc, List.singleton_append] at htrim
    rw [htrim, cutKeyword, hcut]
    simp [harg]

theorem readStage_written {c : Command} (h : c.HasWritableParts) :
    readStage (trim c.written) = .ok c := by
  obtain ⟨hword, hlower⟩ := keyword_word c.kind c.kind_mem_keywords
  have hcut := cutKeyword_trim (toList_ne_nil hword.nonempty) hword.noBlank (isTrimmed_arguments h)
  rw [readStage, Command.written, hcut]
  change readArguments (String.ofList (lower c.kind.toList)) c.arguments = _
  rw [hlower, readArguments_written h]

/-- Stages that can all be read leave no error. -/
theorem readStages_eq_ok (done : List Command) {stages : List (List Char)}
    {commands : List Command}
    (h : List.Forall₂ (fun stage c => readStage stage = .ok c) stages commands) :
    readStages done stages = ⟨done.reverse ++ commands, none⟩ := by
  induction h generalizing done with
  | nil => simp [readStages]
  | cons hc _ ih => simp [readStages, hc, ih]

theorem trim_written_ne_nil (c : Command) : trim c.written ≠ [] := by
  obtain ⟨hword, -⟩ := keyword_word c.kind c.kind_mem_keywords
  obtain ⟨x, hx⟩ := List.exists_mem_of_ne_nil _ (toList_ne_nil hword.nonempty)
  rw [Ne, trim_eq_nil_iff]
  intro hall
  have hm : x ∈ c.written := List.mem_append_left _ hx
  simpa [hword.noBlank x hx] using hall x hm

theorem stages_writtenQuery {commands : List Command} (h : ∀ c ∈ commands, '|' ∉ c.written) :
    stages (writtenQuery commands).toList = commands.map fun c => trim c.written := by
  have hpieces : Text.pieces '|' ([' ', '|', ' '].intercalate (commands.map Command.written)) =
      (commands.map Command.written).map trim := by
    apply pieces_intercalate [' '] [' '] (by simp) (by simp) (by decide)
    intro t ht
    obtain ⟨c, hc, rfl⟩ := List.mem_map.mp ht
    exact ⟨h c hc, trim_written_ne_nil c⟩
  rw [stages, writtenQuery, String.toList_ofList, hpieces, List.map_map]
  rfl

/-- A blank query has no stages, but each command is one. -/
theorem trim_writtenQuery_ne_nil {commands : List Command} (hne : commands ≠ [])
    (h : ∀ c ∈ commands, '|' ∉ c.written) : trim (writtenQuery commands).toList ≠ [] := by
  intro hblank
  have hstages := stages_writtenQuery h
  rw [stages, pieces_eq_nil (by decide) hblank] at hstages
  exact hne (by simpa using hstages.symm)

/-- Compiling undoes the writing of any pipeline whose commands can be written. -/
theorem compile_writtenQuery {commands : List Command} (hne : commands ≠ [])
    (h : ∀ c ∈ commands, c.IsWritable) :
    compile (writtenQuery commands) = ⟨commands, none⟩ := by
  have hbar : ∀ c ∈ commands, '|' ∉ c.written := fun c hc => (h c hc).noBar
  have hread : List.Forall₂ (fun stage c => readStage stage = .ok c)
      (commands.map fun c => trim c.written) commands := by
    rw [List.forall₂_map_left_iff, List.forall₂_same]
    exact fun c hc => readStage_written (h c hc).parts
  have hblank : (trim (writtenQuery commands).toList).isEmpty = false := by
    simpa using trim_writtenQuery_ne_nil hne hbar
  rw [compile, hblank, stages_writtenQuery hbar, readStages_eq_ok [] hread]
  rfl

/-- One command of each kind, with marks inside quotes and parentheses. -/
def sampleCommands : List Command :=
  [.fields ["@timestamp", "user id"],
    .filter ⟨"@message", .like, " \"failed\" by (root), "⟩,
    .stats ⟨"max", "size(a, b) - (c)", ["level", "service name"]⟩,
    .sort ⟨"@timestamp", "desc"⟩,
    .limit 4294967295,
    .parse ⟨"@message", "user \"*\" as * (id=*)", "user, role, id", false⟩]

theorem compile_writtenQuery_sample :
    compile (writtenQuery sampleCommands) = ⟨sampleCommands, none⟩ :=
  compile_writtenQuery (by decide) (by decide +kernel)

end Logbook.Query
