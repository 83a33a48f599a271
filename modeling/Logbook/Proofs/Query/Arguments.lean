import Logbook.Proofs.Query.Call
import Logbook.Proofs.Text.Cut
import Logbook.Proofs.Text.Pieces

/-! Every reader of arguments undoes the writing of its command. The marks between the parts are
found where they were written: the parts cannot hold them, and no mark can begin in one part
and end in the next, because the quotes and parentheses around the parts belong to no mark. -/

namespace Logbook.Query

open Text

theorem ofList_map_toList (names : List String) :
    (names.map String.toList).map String.ofList = names := by
  simp [Function.comp_def]

theorem toList_ne_nil {s : String} (h : s ≠ "") : s.toList ≠ [] := by
  intro hs
  exact h (by simpa using hs)

namespace IsWord

variable {name : String}

theorem isTrimmed (h : IsWord name) : IsTrimmed name.toList := isTrimmed_of_not_blank h.noBlank

theorem notMem {c : Char} (h : IsWord name) (hc : isBlank c = true) : c ∉ name.toList := by
  intro hm
  simp [h.noBlank c hm] at hc

end IsWord

/-! ### Lists -/

theorem readFields_writtenList {names : List String} (h : ∀ name ∈ names, IsItem name) :
    readFields (Command.writtenList names) = names := by
  have hpieces : listItems (Command.writtenList names) = (names.map String.toList).map trim := by
    apply pieces_intercalate [] [' '] (by simp) (by simp) (by decide)
    intro t ht
    obtain ⟨name, hname, rfl⟩ := List.mem_map.mp ht
    have hi := h name hname
    refine ⟨hi.noComma, ?_⟩
    rw [hi.trimmed]
    exact toList_ne_nil hi.nonempty
  have htrim : (names.map String.toList).map trim = names.map String.toList := by
    rw [List.map_map]
    apply List.map_congr_left
    intro name hname
    exact (h name hname).trimmed
  rw [readFields, hpieces, htrim, ofList_map_toList]

/-! ### Filters -/

theorem stripQuotes_inQuotes (s : String) : stripQuotes (Command.inQuotes s) = s.toList := by
  simp [stripQuotes, Command.inQuotes]

theorem isTrimmed_inQuotes (s : String) : IsTrimmed (Command.inQuotes s) :=
  IsTrimmed.append (a := ['"']) (b := ['"']) (by decide) (by decide) (by simp) (by simp) s.toList

theorem mem_of_mem_spaced {op : Operator} {c : Char} (hc : c ∈ op.spaced) : c ≠ '"' := by
  have h : ∀ c ∈ op.spaced, c ≠ '"' := by cases op <;> simp [Operator.spaced, Operator.token]
  exact h c hc

/-- No operator that is looked for earlier lies inside the spaced token of a later one. -/
theorem spaced_not_infix {op earlier : Operator}
    (h : earlier ∈ Operator.scanOrder.takeWhile (· ≠ op)) : ¬ earlier.spaced <:+: op.spaced := by
  revert earlier
  cases op <;> decide

theorem cut?_earlier {f : Filter} (h : f.IsWritable) {op : Operator}
    (hop : op ∈ Operator.scanOrder.takeWhile (· ≠ f.operator)) :
    cut? op.spaced (Command.filter f).arguments = none := by
  have hquote : '"' ∉ op.spaced := fun hm => mem_of_mem_spaced hm rfl
  have hspace : ' ' ∉ f.field.toList := h.field.notMem (by decide)
  rw [cut?_eq_none_iff, Command.arguments, Command.inQuotes, ← List.append_assoc,
    List.cons_append, infix_append_cons_iff_of_notMem hquote]
  rintro (hleft | hright)
  · rw [Operator.spaced, List.cons_append, infix_append_iff_of_notMem hspace] at hleft
    exact spaced_not_infix hop hleft
  · rw [infix_append_cons_iff_of_notMem hquote] at hright
    obtain hvalue | hnil := hright
    · exact h.value op hop hvalue
    · simp [Operator.spaced] at hnil

theorem findSome?_takeWhile {α β : Type} [DecidableEq α] {f : α → Option β} {l : List α} {a : α}
    {b : β} (ha : a ∈ l) (hf : f a = some b) (h : ∀ x ∈ l.takeWhile (· ≠ a), f x = none) :
    l.findSome? f = some b := by
  induction l with
  | nil => simp at ha
  | cons x l ih =>
    by_cases hx : x = a
    · subst hx
      simp [hf]
    · have hn := h x (by simp [hx])
      have hm : a ∈ l := by simpa [Ne.symm hx] using ha
      have hl : ∀ y ∈ l.takeWhile (· ≠ a), f y = none := by
        intro y hy
        exact h y (by simp [hx]; exact .inr (by simpa using hy))
      simp [hn, ih hm hl]

theorem Operator.mem_scanOrder (op : Operator) : op ∈ Operator.scanOrder := by
  cases op <;> decide

theorem readFilter_arguments {f : Filter} (h : f.IsWritable) :
    readFilter (Command.filter f).arguments = f := by
  have hcut : cut? f.operator.spaced (Command.filter f).arguments =
      some (f.field.toList, Command.inQuotes f.value) :=
    cut?_append_of_notMem _ (h.field.notMem (by decide))
  have hscan : Operator.scanOrder.findSome? (comparison? (Command.filter f).arguments) =
      some (f.operator, trim f.field.toList, Command.inQuotes f.value) := by
    apply findSome?_takeWhile (Operator.mem_scanOrder f.operator)
    · simp [comparison?, hcut]
    · intro op hop
      simp [comparison?, cut?_earlier h hop]
  rw [readFilter, hscan]
  have hfield : trim f.field.toList = f.field.toList := h.field.isTrimmed
  have hvalue : trim (Command.inQuotes f.value) = Command.inQuotes f.value :=
    isTrimmed_inQuotes f.value
  simp [hfield, hvalue, stripQuotes_inQuotes]

/-! ### Aggregations -/

theorem by_infix_call {function field : List Char} (hfun : ¬ " by ".toList <:+: function)
    (hfield : ¬ " by ".toList <:+: field) :
    ¬ " by ".toList <:+: function ++ '(' :: (field ++ [')']) := by
  rw [infix_append_cons_iff_of_notMem (by decide), infix_append_cons_iff_of_notMem (by decide)]
  rintro (h | h | h)
  · exact hfun h
  · exact hfield h
  · simp at h

theorem readCall_append {function field : List Char} (hparen : '(' ∉ function)
    (hbalanced : IsBalanced field) :
    readCall (function ++ '(' :: (field ++ [')'])) =
      (String.ofList (trim function), String.ofList (trim field)) := by
  rw [readCall, callParts_balanced hparen hbalanced []]

theorem isTrimmed_call {function : List Char} (field : List Char) (h : IsTrimmed function) :
    IsTrimmed (function ++ '(' :: (field ++ [')'])) := by
  have hclose : IsTrimmed [')'] := by decide
  cases function with
  | nil => exact IsTrimmed.append (a := ['(']) (by decide) hclose (by simp) (by simp) field
  | cons c function => simpa using h.append hclose (by simp) (by simp) ('(' :: field)

theorem readStats_arguments {s : Stats} (h : s.IsWritable) :
    readStats (Command.stats s).arguments = s := by
  obtain ⟨function, field, groupBy⟩ := s
  have hcall := readCall_append h.functionNoParen h.fieldBalanced
  have hby := by_infix_call h.functionNoBy h.fieldNoBy
  have hfunction : trim function.toList = function.toList := h.function
  have hfield : trim field.toList = field.toList := h.field
  cases groupBy with
  | nil =>
    have hcut := (cut?_eq_none_iff _ _).mpr hby
    simp only [readStats, Command.arguments, List.isEmpty_nil, if_true, List.append_nil, hcut,
      hcall, hfunction, hfield, String.ofList_toList]
  | cons g groups =>
    have hcut := cut?_concat_append (q := ')') (function.toList ++ '(' :: field.toList)
      (Command.writtenList (g :: groups)) (show ')' ∉ " by ".toList by decide) (by simpa using hby)
    have htrim : trim (function.toList ++ '(' :: (field.toList ++ [')'])) = _ :=
      isTrimmed_call _ h.function
    have hgroups := readFields_writtenList h.groups
    simp only [List.append_assoc, List.cons_append] at hcut
    simp only [readStats, Command.arguments, List.isEmpty_cons, Bool.false_eq_true, if_false,
      List.append_assoc, List.cons_append, hcut, htrim, hcall, hfunction, hfield, hgroups,
      String.ofList_toList]

/-! ### Orders and limits -/

theorem readSort_arguments {s : Sorting} (h : s.IsWritable) :
    readSort (Command.sort s).arguments = s := by
  have hwords : words (Command.sort s).arguments = [s.field.toList, s.direction.toList] := by
    rw [Command.arguments, words_append_cons _ _ (by decide),
      words_of_not_blank (toList_ne_nil h.field.nonempty) h.field.noBlank,
      words_of_not_blank (toList_ne_nil h.direction.nonempty) h.direction.noBlank]
    rfl
  simp [readSort, hwords, h.lower]

theorem readLimit_eq (rest : List Char) :
    readLimit rest =
      let n := digitsValue ((unsigned rest).takeWhile Char.isDigit)
      if 0 < n ∧ n < UInt32.size then n else defaultLimit := by
  rw [readLimit]
  generalize (unsigned rest).takeWhile Char.isDigit = digits
  by_cases hne : digits = []
  · rw [hne]
    rfl
  · rw [nat32?_eq hne, held32?]
    by_cases hlt : digitsValue digits < UInt32.size
    · by_cases hpos : 0 < digitsValue digits
      · rw [if_pos hlt, if_pos ⟨hpos, hlt⟩, Option.filter_some_pos (by simpa using hpos)]
        rfl
      · rw [if_pos hlt, if_neg (fun h => hpos h.1), Option.filter_some_neg (by simpa using hpos)]
        rfl
    · rw [if_neg hlt, if_neg (fun h => hlt h.2)]
      rfl

theorem readLimit_arguments {count : Nat} (hpos : 1 ≤ count) (hlt : count < 2 ^ 32) :
    readLimit (Command.limit count).arguments = count := by
  have hdigit : ∀ c ∈ Nat.toDigits 10 count, c.isDigit = true := fun _ => isDigit_of_mem_toDigits
  have hunsigned : unsigned (Nat.toDigits 10 count) = Nat.toDigits 10 count := by
    unfold unsigned
    split
    · next hs => simp [hs] at hdigit
    · rfl
  have htake : (Nat.toDigits 10 count).takeWhile Char.isDigit = Nat.toDigits 10 count :=
    List.takeWhile_eq_self_iff.mpr hdigit
  have hrange : 0 < count ∧ count < UInt32.size := ⟨hpos, hlt⟩
  rw [readLimit_eq, Command.arguments, hunsigned, htake, digitsValue_toDigits]
  exact if_pos hrange

/-! ### Extractions -/

theorem isTrimmed_field_inQuotes {field : String} (h : IsWord field) (s : String) :
    IsTrimmed (field.toList ++ ' ' :: Command.inQuotes s) := by
  have hquotes : Command.inQuotes s ≠ [] := by simp [Command.inQuotes]
  simpa using h.isTrimmed.append (isTrimmed_inQuotes s) (toList_ne_nil h.nonempty) hquotes [' ']

/-- The part of the arguments before the names. -/
def mainPart (rest : List Char) : List Char :=
  match cutLast? " as ".toList rest with
  | some (main, _) => trim main
  | none => rest

/-- The names, if there are any. -/
def namesPart (rest : List Char) : List Char :=
  match cutLast? " as ".toList rest with
  | some (_, names) => trim names
  | none => []

theorem readParse_eq (rest : List Char) :
    readParse rest =
      match cutAt? (· == ' ') (mainPart rest) with
      | some (field, written) =>
        ⟨String.ofList (trim field), String.ofList (stripQuotes (trim written)),
          String.ofList (namesPart rest),
          stripQuotes (trim written) == trim written && (regexLiteral? (trim written)).isSome⟩
      | none => ⟨String.ofList (mainPart rest), "", String.ofList (namesPart rest), false⟩ := by
  cases hmain : cutLast? " as ".toList rest with
  | none =>
    cases hcut : cutAt? (· == ' ') rest with
    | none =>
      simp only [readParse, mainPart, namesPart, hmain, hcut]
      rfl
    | some parts => simp only [readParse, mainPart, namesPart, hmain, hcut]
  | some parts =>
    cases hcut : cutAt? (· == ' ') (trim parts.1) with
    | none =>
      simp only [readParse, mainPart, namesPart, hmain, hcut]
      rfl
    | some parts => simp only [readParse, mainPart, namesPart, hmain, hcut]

/-- A field and a pattern in quotation marks, whatever names there are behind them. -/
theorem readParse_quoted {rest : List Char} {field pattern : String} (hfield : IsWord field)
    (hmain : mainPart rest = field.toList ++ ' ' :: Command.inQuotes pattern) :
    readParse rest = ⟨field, pattern, String.ofList (namesPart rest), false⟩ := by
  have hat : cutAt? (· == ' ') (mainPart rest) = some (field.toList, Command.inQuotes pattern) :=
    cutAt?_char_eq_some_iff.mpr ⟨hmain, hfield.notMem isBlank_space⟩
  have htrim : trim field.toList = field.toList := hfield.isTrimmed
  have hwritten : trim (Command.inQuotes pattern) = Command.inQuotes pattern :=
    isTrimmed_inQuotes pattern
  have hquoted : (pattern.toList == Command.inQuotes pattern) = false := by
    have hlen : pattern.toList.length ≠ (Command.inQuotes pattern).length := by
      rw [Command.inQuotes, List.length_append, List.length_cons]
      omega
    simpa using fun heq => hlen (congrArg List.length heq)
  simp only [readParse_eq, hat, htrim, hwritten, stripQuotes_inQuotes, hquoted, Bool.false_and,
    String.ofList_toList]

theorem readParse_arguments {e : Extraction} (h : e.IsWritable) :
    readParse (Command.parse e).arguments = e := by
  obtain ⟨field, pattern, nameList, isRegex⟩ := e
  have hglob : isRegex = false := h.glob
  have has : ¬ ' ' :: "as ".toList <:+: "as ".toList ++ nameList.toList := by
    have hn : ¬ ' ' :: "as ".toList <:+: "as".toList ++ ' ' :: nameList.toList := by
      rw [infix_append_iff_of_notMem (by decide)]
      exact h.noAs
    exact hn
  have hcut : cutLast? " as ".toList (Command.parse ⟨field, pattern, nameList, isRegex⟩).arguments =
      some (field.toList ++ ' ' :: Command.inQuotes pattern, nameList.toList) := by
    simpa [Command.arguments] using
      cutLast?_append (field.toList ++ ' ' :: Command.inQuotes pattern) nameList.toList has
  have hmain : mainPart (Command.parse ⟨field, pattern, nameList, isRegex⟩).arguments =
      field.toList ++ ' ' :: Command.inQuotes pattern := by
    rw [mainPart, hcut]
    exact isTrimmed_field_inQuotes h.field pattern
  have hnames : namesPart (Command.parse ⟨field, pattern, nameList, isRegex⟩).arguments =
      nameList.toList := by
    rw [namesPart, hcut]
    exact h.trimmed
  rw [readParse_quoted h.field hmain, hnames, String.ofList_toList, hglob]

end Logbook.Query
