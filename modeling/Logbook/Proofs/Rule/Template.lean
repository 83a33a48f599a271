import Logbook.Proofs.Keyed
import Logbook.Rule.Piece
import Mathlib.Data.List.TakeDrop

/-! Templates that are put together from pieces. They expand to what the pieces stand for: a text does
not run into the reference behind it, and what a group captured is not expanded again. -/

namespace Logbook.Rule

open Pattern (Match)

variable {p : Pattern} {m : Match} {n n' : Nat} {s rest : List Char}

/-! ### Steps -/

theorem length_le_of_reference? {name : List Char} (h : reference? s = some (name, rest)) :
    rest.length ≤ s.length := by
  unfold reference? at h
  split at h
  · next later =>
    rw [List.span_eq_takeWhile_dropWhile] at h
    have hdrop := (List.dropWhile_sublist (l := later) fun c => c != '\x7d').length_le
    cases hbrace : later.dropWhile fun c => c != '\x7d' with
    | nil => simp [hbrace] at h
    | cons c after =>
      simp only [hbrace, Option.some.injEq, Prod.mk.injEq] at h
      rw [hbrace, List.length_cons] at hdrop
      rw [← h.2, List.length_cons]
      omega
  · dsimp only at h
    split at h
    · cases h
    · simp only [Option.some.injEq, Prod.mk.injEq] at h
      rw [← h.2]
      exact (List.drop_sublist _ _).length_le

/-- More steps than characters do not matter. -/
theorem expandSteps_eq (hn : s.length < n) (hn' : s.length < n') :
    expandSteps p m n s = expandSteps p m n' s := by
  induction n generalizing n' s with
  | zero => omega
  | succ n ih =>
    obtain ⟨n', rfl⟩ : ∃ k, n' = k + 1 := ⟨n' - 1, by omega⟩
    cases s with
    | nil => rfl
    | cons c rest =>
      rw [List.length_cons] at hn hn'
      have hrest {t : List Char} (ht : t.length ≤ rest.length) :
          expandSteps p m n t = expandSteps p m n' t := ih (by omega) (by omega)
      have hdrop := hrest (t := rest.drop 1) (by simp)
      rw [expandSteps, expandSteps, hrest (Nat.le_refl _), hdrop]
      cases hreference : reference? rest with
      | none => rfl
      | some found =>
        obtain ⟨name, later⟩ := found
        simp only [hrest (length_le_of_reference? hreference)]

theorem expand_cons {c : Char} (hc : c ≠ '$') : expand p m (c :: rest) = c :: expand p m rest := by
  rw [expand, expandSteps, if_pos (by simpa using hc)]
  rfl

theorem expand_dollars : expand p m ('$' :: '$' :: rest) = '$' :: expand p m rest := by
  have hhead : ('$' :: rest).head? = some '$' := rfl
  rw [expand, expandSteps, if_neg (by decide), if_pos hhead, expand]
  exact congrArg _ (expandSteps_eq (Nat.lt_succ_of_lt (Nat.lt_succ_self _)) (Nat.lt_succ_self _))

theorem reference?_braces {reference : List Char} (h : '\x7d' ∉ reference) :
    reference? ('\x7b' :: (reference ++ '\x7d' :: rest)) = some (reference, rest) := by
  have hname : ∀ c ∈ reference, (c != '\x7d') = true := by
    intro c hc
    rw [bne_iff_ne]
    rintro rfl
    exact h hc
  simp [reference?, List.span_eq_takeWhile_dropWhile, List.takeWhile_append_of_pos hname,
    List.dropWhile_append_of_pos hname]

theorem expand_braces {reference : List Char} (h : '\x7d' ∉ reference) :
    expand p m ('$' :: '\x7b' :: (reference ++ '\x7d' :: rest)) =
      referenced p m reference ++ expand p m rest := by
  have hhead : ¬ ('\x7b' :: (reference ++ '\x7d' :: rest)).head? = some '$' := by simp
  have hlength : rest.length < ('$' :: '\x7b' :: (reference ++ '\x7d' :: rest)).length := by
    simp only [List.length_cons, List.length_append]
    omega
  rw [expand, expandSteps, if_neg (by decide), if_neg hhead, reference?_braces h]
  exact congrArg _ (expandSteps_eq hlength (Nat.lt_succ_self _))

/-! ### Pieces -/

theorem referenced_eq (reference : String) :
    referenced p m reference.toList = (Piece.group reference).value p m := by
  rw [referenced, Piece.value, String.ofList_toList]
  cases groupNumber? reference.toList with
  | some i => rfl
  | none => cases p.groupNamed? reference <;> rfl

/-- What stands behind a piece does not change what the piece stands for. -/
theorem expand_piece {piece : Piece} (h : piece.IsWritten) :
    expand p m (piece.chars ++ rest) = piece.value p m ++ expand p m rest := by
  cases piece with
  | literal text =>
    rw [Piece.chars, Piece.value]
    induction text.toList with
    | nil => rfl
    | cons c text ih =>
      rw [List.flatMap_cons, List.append_assoc, List.cons_append, ← ih]
      by_cases hc : c = '$'
      · rw [if_pos hc, hc]
        exact expand_dollars
      · rw [if_neg hc]
        exact expand_cons hc
  | group reference =>
    have hchars : (Piece.group reference).chars ++ rest =
        '$' :: '\x7b' :: (reference.toList ++ '\x7d' :: rest) := by
      simp [Piece.chars]
    rw [hchars, expand_braces h.2, referenced_eq]

theorem expand_template {pieces : List Piece} (h : ∀ piece ∈ pieces, piece.IsWritten) :
    String.ofList (expand p m (template pieces).toList) = substituted p m pieces := by
  rw [template, substituted, String.toList_ofList]
  congr 1
  induction pieces with
  | nil => rfl
  | cons piece pieces ih =>
    rw [List.flatMap_cons, List.flatMap_cons, expand_piece (h piece (by simp)),
      ih fun piece hpiece => h piece (List.mem_cons_of_mem _ hpiece)]

/-- A template that is missing supplies as little as an empty one. -/
theorem supplied_template {pieces : Option (List Piece)}
    (h : ∀ ps ∈ pieces, ∀ piece ∈ ps, piece.IsWritten) :
    supplied p m (pieces.map template) = Templates.text? p m pieces := by
  cases pieces with
  | none => rfl
  | some pieces =>
    rw [supplied, Option.map_some, Option.map_some, expand_template (h pieces rfl), Templates.text?]
    by_cases hempty : substituted p m pieces = "" <;> simp [hempty, Option.filter]

/-! ### Rules -/

namespace Templates

variable {t : Templates}

/-- The texts of the metadata that are not empty, under their keys. -/
def texts (t : Templates) (p : Pattern) (m : Match) : Json.Members :=
  t.metadata.filterMap fun member =>
    (text? p m (some member.2)).map fun text => (member.1, .string text)

theorem nodup_keys_texts (h : t.IsWritten) : ((t.texts p m).map Prod.fst).Nodup := by
  rw [List.Nodup, List.pairwise_map]
  refine List.Pairwise.filterMap _ ?_ (List.pairwise_map.mp h.keys)
  intro member member' hne v hv v' hv'
  obtain ⟨text, -, rfl⟩ := Option.map_eq_some_iff.mp hv
  obtain ⟨text', -, rfl⟩ := Option.map_eq_some_iff.mp hv'
  exact hne

theorem mem_texts_iff {key : String} {v : Json.Value} : (key, v) ∈ t.texts p m ↔
    ∃ pieces, (key, pieces) ∈ t.metadata ∧
      ∃ text, text? p m (some pieces) = some text ∧ v = .string text := by
  simp only [texts, List.mem_filterMap, Option.map_eq_some_iff, Prod.mk.injEq, Prod.exists]
  constructor
  · rintro ⟨_, pieces, hmem, text, htext, rfl, rfl⟩
    exact ⟨pieces, hmem, text, htext, rfl⟩
  · rintro ⟨pieces, hmem, text, htext, rfl⟩
    exact ⟨key, pieces, hmem, text, htext, rfl, rfl⟩

theorem metadata_draft (h : t.IsWritten) (name pattern : String) (enabled : Bool) :
    ((t.settings name pattern enabled).draft p m).metadata = Keyed.ofList (t.texts p m) := by
  refine congrArg Keyed.ofList ?_
  rw [settings, List.filterMap_map, texts]
  apply List.filterMap_congr
  intro member hmember
  have hpieces : member.2 ∈ t.all := List.mem_append_right _ (List.mem_map_of_mem hmember)
  have hsupplied : supplied p m ((some member.2).map template) = text? p m (some member.2) :=
    supplied_template fun pieces hsome => h.pieces pieces (Option.some.inj hsome ▸ hpieces)
  exact congrArg (Option.map _) hsupplied

theorem fills_draft (h : t.IsWritten) (name pattern : String) (enabled : Bool) (p : Pattern)
    (m : Match) : t.Fills p m ((t.settings name pattern enabled).draft p m) := by
  have hsupplied (pieces : Option (List Piece)) (hmem : ∀ ps ∈ pieces, ps ∈ t.all) :
      supplied p m (pieces.map template) = text? p m pieces :=
    supplied_template fun ps hps => h.pieces ps (hmem ps hps)
  have hlevel := hsupplied t.level (by simp +contextual [all])
  have hmessage := hsupplied t.message (by simp +contextual [all])
  have hservice := hsupplied t.service (by simp +contextual [all])
  have htimestamp := hsupplied t.timestamp (by simp +contextual [all])
  constructor
  · rw [← hlevel]
    rfl
  · rw [← hmessage]
    rfl
  · exact hservice
  · exact htimestamp
  · exact Keyed.isOrdered_ofList _
  · intro key v
    rw [metadata_draft h, Keyed.mem_ofList_iff (nodup_keys_texts h), mem_texts_iff]

/-- What such a rule makes of a line that its pattern matches is what the pieces stand for. -/
theorem apply_settings (h : t.IsWritten) {name pattern : String} {enabled : Bool} {rule : Rule}
    (hbuild : (t.settings name pattern enabled).build = .ok rule) {line : List Char}
    (hm : rule.pattern.find? line = some m) (now : Time.Instant) :
    ∃ d, rule.apply now line = some d ∧ t.Fills rule.pattern m d := by
  unfold Settings.build at hbuild
  split at hbuild
  · obtain rfl := Except.ok.inj hbuild
    refine ⟨_, by rw [Rule.apply, hm, Option.map_some], ?_⟩
    exact fills_draft h name pattern enabled _ m
  · cases hbuild

/-- The user may have dollar signs, the second group need not take part, and there is no group for a
host. -/
def pricePattern : String := "^(?P<user>[$a-z1]+)( x)?"

def priceTemplates : Templates where
  level := none
  message := some [.literal "cost $", .group "user", .literal "$$ ", .group "2"]
  service := some [.group "2"]
  timestamp := none
  metadata := [("who", [.group "1"]), ("host", [.group "host"])]

def priceSettings : Settings := priceTemplates.settings "price" pricePattern true

def priceRule : Rule where
  name := "price"
  pattern := .ofText pricePattern
  draft := fun _ m => priceSettings.draft (.ofText pricePattern) m

def priceMatch : Match := ⟨"a$1 rest".toList, 0, 3, [⟨1, 0, 3⟩]⟩

theorem build_priceSettings : priceSettings.build = .ok priceRule := by
  have hok : (Pattern.compile pricePattern).isOk := by decide +kernel
  have hcompile : Pattern.compile priceSettings.pattern = .ok (.ofText pricePattern) := by
    change Pattern.compile pricePattern = _
    rw [Pattern.ofText]
    cases hread : Pattern.compile pricePattern with
    | ok p => rfl
    | error refusal => simp [hread, Except.isOk, Except.toBool] at hok
  simp only [Settings.build, hcompile]
  rfl

theorem apply_settings_price : priceTemplates.IsWritten ∧
    priceSettings.message = some "cost $$$\x7buser\x7d$$$$ $\x7b2\x7d" ∧
    priceSettings.build = .ok priceRule ∧ ∃ d, priceRule.apply ⟨0, 0⟩ "a$1 rest".toList = some d ∧
      d.level = none ∧ d.message = some "cost $a$1$$ " ∧ d.service = none ∧
      ("who", .string "a$1") ∈ d.metadata ∧ ∀ v, ("host", v) ∉ d.metadata := by
  have hwritten : priceTemplates.IsWritten := ⟨by decide, by decide⟩
  have hmessage : priceSettings.message = some "cost $$$\x7buser\x7d$$$$ $\x7b2\x7d" := by
    decide +kernel
  have hm : priceRule.pattern.find? "a$1 rest".toList = some priceMatch := by decide +kernel
  obtain ⟨d, happly, hd⟩ := apply_settings hwritten build_priceSettings hm ⟨0, 0⟩
  refine ⟨hwritten, hmessage, build_priceSettings, d, happly, ?_, ?_, ?_, ?_, ?_⟩
  · rw [hd.level]
    decide +kernel
  · rw [hd.message]
    decide +kernel
  · rw [hd.service]
    decide +kernel
  · rw [hd.metadata]
    exact ⟨[.group "1"], by simp [priceTemplates], "a$1", by decide +kernel, rfl⟩
  · intro v hv
    obtain ⟨pieces, hmem, text, htext, -⟩ := (hd.metadata _ _).mp hv
    obtain rfl : pieces = [.group "host"] := by simpa [priceTemplates] using hmem
    have hnone : text? priceRule.pattern priceMatch (some [.group "host"]) = none := by decide +kernel
    rw [hnone] at htext
    cases htext

end Templates

end Logbook.Rule
