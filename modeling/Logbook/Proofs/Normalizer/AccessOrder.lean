import Logbook.Proofs.Normalizer.RuleOrder
import Logbook.Proofs.Pattern.Complete
import Logbook.Proofs.Rule.Numbers

/-! The two forms of access logs. The shorter pattern is the beginning of the longer one, so it matches
whatever the longer one matches, and both cut the line in the same way up to the quote that opens the
request. Where the request ends they need not agree. -/

namespace Logbook

open Json (Value)
open Pattern (Captured Node)
open Pattern.Node (literal)

namespace Rule.Access

variable {line : List Char} {m m' : Pattern.Match} {more : List Node}

/-! ### Two matches of a line -/

/-- Client, user and time are recorded alike. -/
structure SameClient (d d' : Draft) : Prop where
  ip : ∃ ip, d.metadata.get? "ip" = some (.string ip) ∧ d'.metadata.get? "ip" = some (.string ip)
  user : ∃ user, d.metadata.get? "user" = some (.string user) ∧
    d'.metadata.get? "user" = some (.string user)
  timestamp : ∃ time, d.timestamp = some time ∧ d'.timestamp = some time

/-- Request, status and size are recorded alike. -/
structure SameRequest (d d' : Draft) : Prop where
  message : ∃ message, d.message = some message ∧ d'.message = some message
  level : d.level = d'.level
  status : ∃ status, d.metadata.get? "status" = some (.integer status) ∧
    d'.metadata.get? "status" = some (.integer status)
  bytes : ∃ bytes, d.metadata.get? "bytes" = some (.integer bytes) ∧
    d'.metadata.get? "bytes" = some (.integer bytes)

/-- What the groups of a match captured, and what stands behind them. -/
theorem fields_of_find? {p : Pattern} [p.AtStart (.ofList (.assertion .textStart :: requestNodes more))]
    (h : p.find? line = some m) : ∃ (f : Fields) (tail later : List Char) (t : Captured), f.Fit ∧
      (Node.ofList more).Spells tail t ∧ line = f.chars ++ (tail ++ later) ∧
      m.captured = t ++ f.captured := by
  obtain ⟨w, later, rfl, hspells⟩ := Pattern.find?_spells_nodes h
  obtain ⟨f, tail, t, hfit, htail, rfl, hcaptured⟩ := exists_fields hspells
  exact ⟨f, tail, later, t, hfit, htail, List.append_assoc _ _ _, hcaptured⟩

/-- Up to the request there is only one way to cut the line. -/
theorem Fields.Fit.start_eq {f f' : Fields} (h : f.Fit) (h' : f'.Fit) {rest rest' : List Char}
    (heq : f.chars ++ rest = f'.chars ++ rest') :
    f.ip = f'.ip ∧ f.ident = f'.ident ∧ f.user = f'.user ∧ f.time = f'.time := by
  rw [← h.chars_shape, ← h'.chars_shape] at heq
  obtain ⟨hip, hident, huser, htime, -⟩ := Shape.fields_eq heq
  exact ⟨hip, hident, huser, htime⟩

theorem group?_of_captured {f : Fields} {t : Captured} {tail : List Char} {i : Nat}
    (ht : (Node.ofList more).Spells tail t) (hcaptured : m.captured = t ++ f.captured) (hi : i ≠ 0)
    (hmore : (Node.ofList more).hasGroup i = false) : m.group? i = f.captured.lookup i := by
  rw [Pattern.Match.group?_eq_lookup hi, hcaptured, List.lookup_append, ht.lookup_eq_none hmore,
    Option.none_or]

theorem nginx_member (now : Time.Instant) (m : Pattern.Match) (key : String) :
    (nginx.draft now m).metadata.get? key = (clientFields m ++ agentFields m).reverse.lookup key :=
  Keyed.lookup_ofList _ key

theorem apache_member (now : Time.Instant) (m : Pattern.Match) (key : String) :
    (apache.draft now m).metadata.get? key = (clientFields m).reverse.lookup key :=
  Keyed.lookup_ofList _ key

theorem nginx_status (now : Time.Instant) (m : Pattern.Match) :
    (nginx.draft now m).metadata.get? "status" =
      some (.integer ((number? m 6 UInt16.size).getD 0 : Nat)) :=
  nginx_member now m "status"

theorem apache_status (now : Time.Instant) (m : Pattern.Match) :
    (apache.draft now m).metadata.get? "status" =
      some (.integer ((number? m 6 UInt16.size).getD 0 : Nat)) :=
  apache_member now m "status"

theorem sameClient (now : Time.Instant) (h : ∀ i ∈ [1, 3, 4], m.group? i = m'.group? i) :
    SameClient (nginx.draft now m) (apache.draft now m') := by
  have hgroup (i : Nat) (hi : i ∈ [1, 3, 4]) : m.group i = m'.group i := by
    rw [Pattern.Match.group, h i hi, Pattern.Match.group]
  have hip : m.groupText 1 = m'.groupText 1 := congrArg String.ofList (hgroup 1 (by simp))
  have huser : m.groupText 3 = m'.groupText 3 := congrArg String.ofList (hgroup 3 (by simp))
  have htime : m.group 4 = m'.group 4 := hgroup 4 (by simp)
  refine ⟨⟨m.groupText 1, nginx_member now m _, ?_⟩, ⟨m.groupText 3, nginx_member now m _, ?_⟩,
    ⟨timestamp (m.group 4), rfl, ?_⟩⟩
  · rw [hip]
    exact apache_member now m' _
  · rw [huser]
    exact apache_member now m' _
  · rw [htime]
    rfl

theorem sameRequest (now : Time.Instant) (h : ∀ i ∈ [5, 6, 7], m.group? i = m'.group? i) :
    SameRequest (nginx.draft now m) (apache.draft now m') := by
  have hrequest : m.groupText 5 = m'.groupText 5 :=
    congrArg String.ofList (by rw [Pattern.Match.group, h 5 (by simp), Pattern.Match.group])
  have hstatus : number? m 6 UInt16.size = number? m' 6 UInt16.size := by
    rw [number?, h 6 (by simp), number?]
  have hbytes : number? m 7 UInt64.size = number? m' 7 UInt64.size := by
    rw [number?, h 7 (by simp), number?]
  refine ⟨⟨_, rfl, ?_⟩, ?_, ⟨_, nginx_status now m, ?_⟩, ⟨_, nginx_member now m _, ?_⟩⟩
  · rw [hrequest, hstatus]
    rfl
  · change some (levelOfStatus _) = some (levelOfStatus _)
    rw [hstatus]
  · rw [hstatus]
    exact apache_status now m'
  · rw [hbytes]
    exact apache_member now m' _

theorem apache_matches_of_nginx (h : nginx.Matches line) : apache.Matches line := by
  obtain ⟨m, hm⟩ := Option.isSome_iff_exists.mp h
  obtain ⟨w, later, rfl, hreads⟩ := Pattern.find?_reads_nodes hm
  rw [requestNodes_eq] at hreads
  obtain ⟨w₁, w₂, rfl, hrequest⟩ := hreads.exists_append
  exact (Pattern.find?_isSome_iff apache.pattern rfl _).mpr
    ⟨w₁, w₂ ++ later, List.append_assoc _ _ _, hrequest⟩

/-- The fields up to the time are the same in any case, the others if the request has no quotes. -/
theorem apache_groups (hm : nginx.pattern.find? line = some m)
    (hm' : apache.pattern.find? line = some m') : (∀ i ∈ [1, 3, 4], m.group? i = m'.group? i) ∧
      ('"' ∉ m.group 5 → ∀ i ∈ [5, 6, 7], m.group? i = m'.group? i) := by
  obtain ⟨f, tail, later, t, hfit, htail, hline, hcaptured⟩ := fields_of_find? hm
  obtain ⟨f', tail', later', t', hfit', htail', hline', hcaptured'⟩ := fields_of_find? hm'
  have hgroup (i : Nat) (hi : i ≠ 0) (hagent : (Node.ofList agentNodes).hasGroup i = false) :
      m.group? i = f.captured.lookup i := group?_of_captured htail hcaptured hi hagent
  have hgroup' (i : Nat) (hi : i ≠ 0) : m'.group? i = f'.captured.lookup i :=
    group?_of_captured htail' hcaptured' hi rfl
  constructor
  · obtain ⟨hip, -, huser, htime⟩ := hfit.start_eq hfit' (hline.symm.trans hline')
    simp only [List.forall_mem_cons, List.not_mem_nil, false_implies, implies_true, and_true]
    rw [hgroup 1 (by decide) rfl, hgroup 3 (by decide) rfl, hgroup 4 (by decide) rfl,
      hgroup' 1 (by decide), hgroup' 3 (by decide), hgroup' 4 (by decide)]
    exact ⟨congrArg some hip, congrArg some huser, congrArg some htime⟩
  · intro hquote
    have hrequest : m.group 5 = f.request := by
      rw [Pattern.Match.group, hgroup 5 (by decide) rfl]
      rfl
    obtain ⟨agent, -, rfl⟩ := (Node.spells_literal_iff " \"").mp htail
    have hend : decimal.Stops ([] ++ (" \"".toList ++ agent ++ later)) := by
      have hspace : decimal.has ' ' = false := by decide
      exact Pattern.CharSet.stops_cons.mpr hspace
    have hprefers := hfit.prefers (hrequest ▸ hquote) (Node.prefers_ofList_nil _) hend
    obtain ⟨m'', hm'', hcaptured''⟩ := Pattern.find?_of_prefers apache.pattern hprefers
    rw [List.append_nil, ← hline, hm'] at hm''
    obtain rfl := Option.some.inj hm''
    have hlookup (i : Nat) (hi : i ≠ 0) (hagent : (Node.ofList agentNodes).hasGroup i = false) :
        m.group? i = m'.group? i := by
      rw [hgroup i hi hagent, Pattern.Match.group?_eq_lookup hi, hcaptured'', List.nil_append]
    simp only [List.forall_mem_cons, List.not_mem_nil, false_implies, implies_true, and_true]
    exact ⟨hlookup 5 (by decide) rfl, hlookup 6 (by decide) rfl, hlookup 7 (by decide) rfl⟩

end Rule.Access

namespace Normalizer

open Rule.Access (nginx apache SameClient SameRequest)

variable {text : List Char} {before between after : List Rule}

/-- Behind a rule that matches whenever it does, a rule may be left out. -/
theorem matchRules_behind {rule rule' : Rule} (now : Time.Instant)
    (h : rule.Matches text → rule'.Matches text) :
    matchRules ⟨before ++ rule' :: (between ++ rule :: after)⟩ now text =
      matchRules ⟨before ++ rule' :: (between ++ after)⟩ now text := by
  have hsplit (others : List Rule) : before ++ rule' :: (between ++ others) =
      (before ++ rule' :: between) ++ others := by simp
  rw [hsplit, hsplit]
  by_cases hrule : rule.Matches text
  · have hfront : ∃ r ∈ before ++ rule' :: between, r.Matches text := ⟨rule', by simp, h hrule⟩
    have hextend (others : List Rule) : matchRules ⟨(before ++ rule' :: between) ++ others⟩ now text =
        matchRules ⟨before ++ rule' :: between⟩ now text :=
      matchRules_extend_of_matches (n := ⟨_⟩) now others hfront
    rw [hextend, hextend]
  · exact matchRules_skip now hrule _ after

/-- Whatever line the longer form matches, the shorter form matches too, with the same client, user and
time; with the same request, status and size if the request of the longer form has no quote. So behind
the rule for the shorter form the one for the longer form decides nothing, whatever the input and the
other rules. -/
theorem record_behind_apache (now : Time.Instant) :
    (∀ line m, nginx.pattern.find? line = some m →
        ∃ m', apache.pattern.find? line = some m' ∧
          SameClient (nginx.draft now m) (apache.draft now m') ∧
          ('"' ∉ m.group 5 → SameRequest (nginx.draft now m) (apache.draft now m'))) ∧
      ∀ (before between after : List Rule) (i : Input),
        record ⟨before ++ apache :: (between ++ nginx :: after)⟩ now i =
          record ⟨before ++ apache :: (between ++ after)⟩ now i := by
  constructor
  · intro line m hm
    have hmatches : nginx.Matches line := Option.isSome_iff_exists.mpr ⟨m, hm⟩
    obtain ⟨m', hm'⟩ := Option.isSome_iff_exists.mp (Rule.Access.apache_matches_of_nginx hmatches)
    obtain ⟨hclient, hrequest⟩ := Rule.Access.apache_groups hm hm'
    exact ⟨m', hm', Rule.Access.sameClient now hclient,
      fun hquote => Rule.Access.sameRequest now (hrequest hquote)⟩
  · intro before between after i
    rw [record_eq, record_eq, matchRules_behind now Rule.Access.apache_matches_of_nginx]

/-- The request of the longer form goes on behind a quote, a status and a size. -/
def ambiguousLine : String :=
  "h - u [10/Oct/2000:13:55:36 -0700] \"a\" 200 1\" 404 7 \"-\" \"x\""

def plainLine : String := "h - u [10/Oct/2000:13:55:36 -0700] \"a\" 200 1 \"-\" \"x\""

/-- In the first line the forms have two requests, in the second the same one. -/
theorem record_behind_apache_lines :
    (∃ m m', nginx.pattern.find? ambiguousLine.toList = some m ∧
        apache.pattern.find? ambiguousLine.toList = some m' ∧
        SameClient (nginx.draft ⟨0, 0⟩ m) (apache.draft ⟨0, 0⟩ m') ∧
        m.groupText 5 = "a\" 200 1" ∧ m'.groupText 5 = "a" ∧
        ¬ SameRequest (nginx.draft ⟨0, 0⟩ m) (apache.draft ⟨0, 0⟩ m')) ∧
      (∃ m m', nginx.pattern.find? plainLine.toList = some m ∧ '"' ∉ m.group 5 ∧
        apache.pattern.find? plainLine.toList = some m' ∧
        SameRequest (nginx.draft ⟨0, 0⟩ m) (apache.draft ⟨0, 0⟩ m')) ∧
      record ⟨[apache, nginx]⟩ ⟨0, 0⟩ (.line ambiguousLine) =
        record ⟨[apache]⟩ ⟨0, 0⟩ (.line ambiguousLine) := by
  obtain ⟨hlines, hrecord⟩ := record_behind_apache ⟨0, 0⟩
  have hlonger : (nginx.pattern.find? ambiguousLine.toList).map
      (fun m => (m.groupText 5, (Rule.number? m 6 UInt16.size).getD 0)) =
        some ("a\" 200 1", 404) := by
    rw [Pattern.find?_eq_run]
    decide +kernel
  have hshorter : (apache.pattern.find? ambiguousLine.toList).map
      (fun m => (m.groupText 5, (Rule.number? m 6 UInt16.size).getD 0)) = some ("a", 200) := by
    rw [Pattern.find?_eq_run]
    decide +kernel
  have hplain : (nginx.pattern.find? plainLine.toList).map (·.group 5) = some ['a'] := by
    rw [Pattern.find?_eq_run]
    decide +kernel
  refine ⟨?quoted, ?plain, hrecord [] [] [] (.line ambiguousLine)⟩
  case quoted =>
    obtain ⟨m, hm, hgroups⟩ := Option.map_eq_some_iff.mp hlonger
    obtain ⟨m', hm', hclient, -⟩ := hlines _ m hm
    rw [hm', Option.map_some] at hshorter
    obtain ⟨hfive, hsix⟩ := Prod.mk.inj hgroups
    obtain ⟨hfive', hsix'⟩ := Prod.mk.inj (Option.some.inj hshorter)
    refine ⟨m, m', hm, hm', hclient, hfive, hfive', fun hsame => ?_⟩
    obtain ⟨status, hstatus, hstatus'⟩ := hsame.status
    rw [Rule.Access.nginx_status, hsix] at hstatus
    rw [Rule.Access.apache_status, hsix'] at hstatus'
    cases hstatus.trans hstatus'.symm
  case plain =>
    obtain ⟨m, hm, hfive⟩ := Option.map_eq_some_iff.mp hplain
    have hquote : '"' ∉ m.group 5 := by simp [hfive]
    obtain ⟨m', hm', -, hrequest⟩ := hlines _ m hm
    exact ⟨m, m', hm, hquote, hm', hrequest hquote⟩

end Normalizer

end Logbook
