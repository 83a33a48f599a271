import Logbook.Proofs.Rule.Parts
import Logbook.Proofs.Text.Cut

/-! Lines of access logs under their two patterns. -/

namespace Logbook.Rule

open Pattern (CharSet Node Captured isWord)
open Text (IsGap IsToken isBlank)

namespace Access

variable {w later : List Char} {t : Captured}

/-- What the groups of the shorter pattern capture. -/
structure Fields where
  ip : List Char
  ident : List Char
  user : List Char
  time : List Char
  request : List Char
  status : List Char
  bytes : List Char

namespace Fields

def chars (f : Fields) : List Char :=
  f.ip ++ ' ' :: (f.ident ++ ' ' :: (f.user ++ ' ' :: '[' :: (f.time ++ ']' :: ' ' :: '"' ::
    (f.request ++ '"' :: ' ' :: (f.status ++ ' ' :: f.bytes)))))

def captured (f : Fields) : Captured :=
  [(7, f.bytes), (6, f.status), (5, f.request), (4, f.time), (3, f.user), (2, f.ident), (1, f.ip)]

/-- The fields are what their groups take. -/
structure Fit (f : Fields) : Prop where
  ip : IsToken f.ip
  ident : IsToken f.ident
  user : IsToken f.user
  time : IsAccessTime f.time
  request_ne : f.request ≠ []
  request : ∀ c ∈ f.request, inLine.has c = true
  status_length : f.status.length = 3
  status : ∀ c ∈ f.status, decimal.has c = true
  bytes : f.bytes = ['-'] ∨ f.bytes ≠ [] ∧ ∀ c ∈ f.bytes, decimal.has c = true

end Fields

/-! ### What the patterns prefer -/

theorem prefers_token (h : IsToken w) (rest : List Char) :
    (many visible).Prefers w (' ' :: rest) [] := by
  have hspace : visible.has ' ' = false := by decide
  exact prefers_many h.ne_nil (fun c hc => has_visible_iff.mpr (h.notBlank c hc))
    (CharSet.stops_cons.mpr hspace)

theorem prefers_time (h : IsAccessTime w) (later : List Char) :
    (Node.ofList timeNodes).Prefers w later [] := by
  obtain ⟨clock, b, sign, zone, rfl, hne, hclock, hb, hsign, hlength, hzone⟩ := h
  have hend : stamp.has b = false := by
    by_contra hstamp
    rw [not_isBlank_of_stamp (Bool.not_eq_false _ ▸ hstamp)] at hb
    cases hb
  have hzone := (prefers_exactly (s := decimal) hlength hzone later).ofList_cons
    (Node.prefers_ofList_nil later)
  have hsign := (Node.prefers_chars (has_sign_iff.mpr hsign) _).ofList_cons hzone
  have hblank := (Node.prefers_chars (has_blank_iff.mpr hb) _).ofList_cons hsign
  have htime := (prefers_many hne (fun c hc => has_stamp_iff.mpr (hclock c hc))
    (CharSet.stops_cons.mpr hend)).ofList_cons hblank
  simpa [timeNodes] using htime

theorem prefers_bytes (h : w = ['-'] ∨ w ≠ [] ∧ ∀ c ∈ w, decimal.has c = true)
    (hend : decimal.Stops later) :
    (Node.alt (many decimal) (.chars (.just '-'))).Prefers w later [] := by
  rcases h with rfl | ⟨hne, hw⟩
  · have hdash : decimal.has '-' = false := by decide
    exact (Node.prefers_chars (Node.has_just _) later).right
      (Node.fails_plus (CharSet.stops_cons.mpr hdash) true)
  · exact (prefers_many hne hw hend).left _

/-- A request without quotes ends at the first quote behind it. -/
theorem Fields.Fit.prefers {f : Fields} {more : List Node} (h : f.Fit) (hquote : '"' ∉ f.request)
    (hmore : (Node.ofList more).Prefers w later t) (hend : decimal.Stops (w ++ later)) :
    (Node.ofList (requestNodes more)).Prefers (f.chars ++ w) later (t ++ f.captured) := by
  have hbytes := (((prefers_bytes h.bytes hend).group 7).ofList_cons hmore).ofList_literal " "
  have hstatus := ((prefers_exactly h.status_length h.status _).group 6).ofList_cons hbytes
  have hquoted : "\" ".toList = ['"', ' '] := by decide
  have hrequest := (hstatus.lazy_group h.request_ne h.request hquote hquoted 5).ofList_literal "] \""
  have htime := (((prefers_time h.time _).group 4).ofList_cons hrequest).ofList_literal " ["
  have huser := (((prefers_token h.user _).group 3).ofList_cons htime).ofList_literal " "
  have hident := (((prefers_token h.ident _).group 2).ofList_cons huser).ofList_literal " "
  have hip := ((prefers_token h.ip _).group 1).ofList_cons hident
  simpa [chars, captured, requestNodes] using hip

end Access

namespace AccessLine

variable {l : AccessLine} {w later : List Char}

/-- What the groups of the shorter pattern capture. -/
def captured (l : AccessLine) : Captured :=
  [(7, l.bytes.toList), (6, l.status.toList), (5, l.request.toList), (4, l.time.toList),
    (3, l.user.toList), (2, l.ident.toList), (1, l.ip.toList)]

def fields (l : AccessLine) : Access.Fields :=
  ⟨l.ip.toList, l.ident.toList, l.user.toList, l.time.toList, l.request.toList, l.status.toList,
    l.bytes.toList⟩

theorem has_stamp_of_clock {c : Char}
    (h : (isWord true c || c == ':' || c == '/') = true) : stamp.has c = true := by
  rw [has_stamp_iff]
  simp only [Bool.or_eq_true, beq_iff_eq, or_assoc] at h
  exact h.imp_left isWord_of_ascii

theorem isAccessTime_time (h : l.IsWritten) : IsAccessTime l.time.toList :=
  ⟨l.clock.toList, ' ', l.sign, l.zone.toList, by simp [time], h.clock.ne_nil,
    fun c hc => has_stamp_iff.mp (has_stamp_of_clock (h.clock.all c hc)), Text.isBlank_space, h.sign,
    h.zone.length, fun c hc => has_decimal_of_isDigit (h.zone.all c hc)⟩

theorem fit_fields (h : l.IsWritten) : l.fields.Fit where
  ip := h.ip.isToken
  ident := h.ident.isToken
  user := h.user.isToken
  time := isAccessTime_time h
  request_ne := h.request.ne_nil
  request := by
    intro c hc
    have hkind := h.request.all c hc
    simp only [Bool.and_eq_true, bne_iff_ne] at hkind
    exact has_inLine_iff.mpr hkind.2
  status_length := h.status.length
  status := fun c hc => has_decimal_of_isDigit (h.status.all c hc)
  bytes := by
    refine h.bytes.imp (fun hbytes => by simp [fields, hbytes]) fun hbytes => ?_
    exact ⟨hbytes.1.ne_nil, fun c hc => has_decimal_of_isDigit (hbytes.1.all c hc)⟩

theorem prefers_request {more : List Node} {t : Captured} (h : l.IsWritten)
    (hmore : (Node.ofList more).Prefers w later t) (hend : decimal.Stops (w ++ later)) :
    (Node.ofList (Access.requestNodes more)).Prefers (l.text.toList ++ w) later (t ++ l.captured) := by
  have htext : l.text.toList = l.fields.chars := by simp [text, fields, Access.Fields.chars]
  rw [htext]
  exact (fit_fields h).prefers (h.request.notMem (by decide)) hmore hend

theorem apache_find? (h : l.IsWritten) :
    ∃ m, Access.apache.pattern.find? l.text.toList = some m ∧ m.captured = l.captured := by
  have hrequest := prefers_request h (Node.prefers_ofList_nil []) (CharSet.stops_nil decimal)
  simpa using Pattern.find?_of_prefers Access.apache.pattern hrequest

theorem prefers_agent {referer agent : String} (hreferer : '"' ∉ referer.toList)
    (hagent : '"' ∉ agent.toList) :
    (Node.ofList Access.agentNodes).Prefers
      (" \"".toList ++ (referer.toList ++ ("\" \"".toList ++ (agent.toList ++ ['"'])))) []
      [(9, agent.toList), (8, referer.toList)] := by
  have hquote : unquoted.has '"' = false := by decide
  have hquoted {s : String} (hs : '"' ∉ s.toList) (rest : List Char) :
      (Node.loop 0 none true (.chars unquoted)).Prefers s.toList ('"' :: rest) [] :=
    Node.prefers_loop (fun c hc => has_unquoted_iff.mpr fun heq => hs (heq ▸ hc)) (Nat.zero_le _)
      (by simp) (.inr (CharSet.stops_cons.mpr hquote))
  have hclose := (Node.prefers_ofList_nil []).ofList_literal "\""
  have hnine := (((hquoted hagent _).group 9).ofList_cons hclose).ofList_literal "\" \""
  have height := (((hquoted hreferer _).group 8).ofList_cons hnine).ofList_literal " \""
  simpa [Access.agentNodes] using height

theorem nginx_find? (h : l.IsWritten) {referer agent : String} (hreferer : '"' ∉ referer.toList)
    (hagent : '"' ∉ agent.toList) :
    ∃ m, Access.nginx.pattern.find? (l.combinedText referer agent).toList = some m ∧
      m.captured = (9, agent.toList) :: (8, referer.toList) :: l.captured := by
  have hspace : decimal.has ' ' = false := by decide
  have hrequest := prefers_request h (prefers_agent hreferer hagent) (CharSet.stops_cons.mpr hspace)
  simpa [combinedText] using
    Pattern.find?_of_prefers Access.nginx.pattern hrequest

end AccessLine

/-! ### What the patterns read -/

namespace Access

/-- Three tokens, a time in brackets, and what stands behind the quote that opens the request. -/
structure Shape where
  ip : List Char
  ident : List Char
  user : List Char
  time : List Char
  rest : List Char
  isToken_ip : IsToken ip
  isToken_ident : IsToken ident
  isToken_user : IsToken user
  isAccessTime : IsAccessTime time

def Shape.chars (s : Shape) : List Char :=
  s.ip ++ ' ' :: (s.ident ++ ' ' :: (s.user ++ ' ' :: '[' :: (s.time ++ ']' :: ' ' :: '"' :: s.rest)))

def Shape.append (s : Shape) (later : List Char) : Shape := { s with rest := s.rest ++ later }

@[simp] theorem Shape.chars_append (s : Shape) (later : List Char) :
    (s.append later).chars = s.chars ++ later := by
  simp [chars, append]

theorem isAccessTime_of_reads {w : List Char} (h : (Node.ofList timeNodes).Reads w) :
    IsAccessTime w := by
  obtain ⟨clock, w₁, hclock, h₁, rfl⟩ := Node.reads_ofList_cons_iff.mp h
  obtain ⟨_, w₂, hblank, h₂, rfl⟩ := Node.reads_ofList_cons_iff.mp h₁
  obtain ⟨_, w₃, hchar, h₃, rfl⟩ := Node.reads_ofList_cons_iff.mp h₂
  obtain ⟨b, hb, rfl⟩ := Node.reads_chars_iff.mp hblank
  obtain ⟨sign, hsign, rfl⟩ := Node.reads_chars_iff.mp hchar
  obtain ⟨hne, hclock⟩ := reads_many hclock
  obtain ⟨hlength, hzone⟩ := reads_exactly h₃
  exact ⟨clock, b, sign, w₃, rfl, hne, fun c hc => has_stamp_iff.mp (hclock c hc), hb,
    has_sign_iff.mp hsign, hlength, hzone⟩

theorem bytes_of_reads {w : List Char}
    (h : (Node.alt (many decimal) (.chars (.just '-'))).Reads w) :
    w = ['-'] ∨ w ≠ [] ∧ ∀ c ∈ w, decimal.has c = true := by
  rcases Node.reads_alt_iff.mp h with hmany | hdash
  · exact .inr (reads_many hmany)
  · obtain ⟨c, hc, rfl⟩ := Node.reads_chars_iff.mp hdash
    rw [CharSet.has_just_iff.mp hc]
    exact .inl rfl

/-- Whatever way the pattern takes, its groups cut the text into fields. -/
theorem exists_fields {more : List Node} {w : List Char} {t : Captured}
    (h : (Node.ofList (requestNodes more)).Spells w t) :
    ∃ (f : Fields) (tail : List Char) (t' : Captured), f.Fit ∧ (Node.ofList more).Spells tail t' ∧
      w = f.chars ++ tail ∧ t = t' ++ f.captured := by
  obtain ⟨ip, w₁, t₁, hip, h₁, rfl, rfl⟩ := h.field fun _ => rfl
  obtain ⟨ident, w₂, t₂, hident, h₂, rfl, rfl⟩ := h₁.field fun _ => rfl
  obtain ⟨user, w₃, t₃, huser, h₃, rfl, rfl⟩ := h₂.field fun _ => rfl
  obtain ⟨time, w₄, t₄, htime, h₄, rfl, rfl⟩ := h₃.field fun _ => rfl
  obtain ⟨request, w₅, t₅, hrequest, h₅, rfl, rfl⟩ := h₄.field fun _ => rfl
  obtain ⟨status, w₆, t₆, hstatus, h₆, rfl, rfl⟩ := h₅.field fun _ => rfl
  obtain ⟨bytes, tail, t₇, hbytes, htail, rfl, rfl⟩ := h₆.group_cons fun _ => rfl
  obtain ⟨hrequestLine, hne, -⟩ := hrequest.loop_chars
  obtain ⟨hlength, hdecimal⟩ := reads_exactly hstatus
  refine ⟨⟨ip, ident, user, time, request, status, bytes⟩, tail, t₇, ?_, htail, ?_, ?_⟩
  · exact ⟨isToken_of_reads hip, isToken_of_reads hident, isToken_of_reads huser,
      isAccessTime_of_reads htime, List.length_pos_iff.mp hne, hrequestLine, hlength, hdecimal,
      bytes_of_reads hbytes⟩
  · simp [Fields.chars]
  · simp [Fields.captured]

/-- The shape of the fields, and what follows them. -/
def Fields.Fit.shape {f : Fields} (h : f.Fit) (tail : List Char) : Shape where
  ip := f.ip
  ident := f.ident
  user := f.user
  time := f.time
  rest := f.request ++ '"' :: ' ' :: (f.status ++ ' ' :: (f.bytes ++ tail))
  isToken_ip := h.ip
  isToken_ident := h.ident
  isToken_user := h.user
  isAccessTime := h.time

theorem Fields.Fit.chars_shape {f : Fields} (h : f.Fit) (tail : List Char) :
    (h.shape tail).chars = f.chars ++ tail := by
  simp [shape, Shape.chars, Fields.chars]

theorem exists_shape {more : List Node} {w : List Char}
    (h : (Node.ofList (requestNodes more)).Reads w) :
    ∃ (s : Shape) (request status bytes tail : List Char), w = s.chars ∧
      s.rest = request ++ '"' :: ' ' :: (status ++ ' ' :: (bytes ++ tail)) ∧
      (Node.ofList more).Reads tail := by
  obtain ⟨t, hspells⟩ := h
  obtain ⟨f, tail, t', hfit, htail, rfl, -⟩ := exists_fields hspells
  exact ⟨hfit.shape tail, f.request, f.status, f.bytes, tail, (hfit.chars_shape tail).symm, rfl,
    t', htail⟩

theorem not_mem_of_isAccessTime {time : List Char} (h : IsAccessTime time) : ']' ∉ time := by
  have hword : isWord false ']' = false := by decide
  have hblank : isBlank ']' = false := by decide
  have hdecimal : Text.digitRanges.has ']'.toNat = false := by decide
  obtain ⟨clock, b, sign, zone, rfl, -, hclock, hb, hsign, -, hzone⟩ := h
  intro hmem
  simp only [List.mem_append, List.mem_cons] at hmem
  rcases hmem with hmem | rfl | rfl | hmem
  · simpa [hword] using hclock _ hmem
  · rw [hblank] at hb
    cases hb
  · simp at hsign
  · rw [hzone _ hmem] at hdecimal
    cases hdecimal

/-- Tokens end at the first white space behind them. -/
theorem Shape.tokens_eq (s : Shape) {u v w rest : List Char} (hu : IsToken u) (hv : IsToken v)
    (hw : IsToken w) (h : u ++ ' ' :: (v ++ ' ' :: (w ++ ' ' :: rest)) = s.chars) :
    u = s.ip ∧ v = s.ident ∧ w = s.user ∧
      rest = '[' :: (s.time ++ ']' :: ' ' :: '"' :: s.rest) := by
  have htoken {u u' v v' : List Char} (hu : IsToken u) (hu' : IsToken u')
      (heq : u ++ ' ' :: v = u' ++ ' ' :: v') : u = u' ∧ v = v' :=
    (Text.append_cons_inj isBlank hu.notBlank hu'.notBlank Text.isBlank_space Text.isBlank_space
      heq).imp_right And.right
  obtain ⟨hip, hident⟩ := htoken hu s.isToken_ip h
  obtain ⟨hident, huser⟩ := htoken hv s.isToken_ident hident
  exact ⟨hip, hident, htoken hw s.isToken_user huser⟩

/-- The time ends at the first bracket that closes. -/
theorem Shape.behind_bracket (s : Shape) {time rest : List Char} (htime : ']' ∉ time)
    (h : time ++ ']' :: rest = s.time ++ ']' :: ' ' :: '"' :: s.rest) :
    time = s.time ∧ rest = ' ' :: '"' :: s.rest := by
  have hbracket {t : List Char} (ht : ']' ∉ t) : ∀ d ∈ t, (d == ']') = false := by
    intro d hd
    rw [beq_eq_false_iff_ne]
    rintro rfl
    exact ht hd
  have hcut := Text.append_cons_inj (· == ']') (hbracket htime)
    (hbracket (not_mem_of_isAccessTime s.isAccessTime)) rfl rfl h
  exact ⟨hcut.1, hcut.2.2⟩

theorem Shape.fields_eq {s s' : Shape} (h : s.chars = s'.chars) :
    s.ip = s'.ip ∧ s.ident = s'.ident ∧ s.user = s'.user ∧ s.time = s'.time ∧ s.rest = s'.rest := by
  obtain ⟨hip, hident, huser, hbracket⟩ :=
    s'.tokens_eq s.isToken_ip s.isToken_ident s.isToken_user h
  have htime := not_mem_of_isAccessTime s.isAccessTime
  obtain ⟨htime, hrest⟩ := s'.behind_bracket htime (List.cons.inj hbracket).2
  exact ⟨hip, hident, huser, htime, by simpa using hrest⟩

/-- The time is cut in two by its white space. -/
theorem Shape.words_chars (s : Shape) : ∃ clock sign rest, (sign = '+' ∨ sign = '-') ∧
    Text.words s.chars = s.ip :: s.ident :: s.user :: ('[' :: clock) :: Text.words (sign :: rest) := by
  obtain ⟨clock, b, sign, zone, htime, -, hclock, hb, hsign, -, -⟩ := s.isAccessTime
  have hbracket : IsToken ['['] := ⟨by simp, List.forall_mem_singleton.mpr (by decide)⟩
  have htoken : IsToken ('[' :: clock) :=
    hbracket.append fun c hc => not_isBlank_of_stamp (has_stamp_iff.mpr (hclock c hc))
  have hgap : IsGap [b] := ⟨by simp, by simpa using hb⟩
  have hchars : s.chars = s.ip ++ ([' '] ++ (s.ident ++ ([' '] ++ (s.user ++ ([' '] ++
      ('[' :: clock ++ ([b] ++ sign :: (zone ++ ']' :: ' ' :: '"' :: s.rest)))))))) := by
    simp [chars, htime]
  refine ⟨clock, sign, zone ++ ']' :: ' ' :: '"' :: s.rest, hsign, ?_⟩
  rw [hchars, Text.words_token_append s.isToken_ip Text.isGap_space,
    Text.words_token_append s.isToken_ident Text.isGap_space,
    Text.words_token_append s.isToken_user Text.isGap_space, Text.words_token_append htoken hgap]

theorem count_quote_of_reads_agentNodes {tail : List Char} (h : (Node.ofList agentNodes).Reads tail) :
    4 ≤ tail.count '"' := by
  obtain ⟨w₁, h₁, rfl⟩ := (Node.reads_literal_iff " \"").mp h
  obtain ⟨referer, w₂, -, h₂, rfl⟩ := Node.Reads.field h₁
  obtain ⟨agent, w₃, -, h₃, rfl⟩ := Node.reads_ofList_cons_iff.mp h₂
  obtain rfl := (Node.reads_ofList_literal_iff "\"").mp h₃
  simp
  omega

end Access

namespace AccessLine

variable {l : AccessLine}

/-- The shape of a line that is written. -/
def shape (h : l.IsWritten) : Access.Shape where
  ip := l.ip.toList
  ident := l.ident.toList
  user := l.user.toList
  time := l.time.toList
  rest := l.request.toList ++ '"' :: ' ' :: (l.status.toList ++ ' ' :: l.bytes.toList)
  isToken_ip := h.ip.isToken
  isToken_ident := h.ident.isToken
  isToken_user := h.user.isToken
  isAccessTime := isAccessTime_time h

theorem text_eq_chars (h : l.IsWritten) : l.text.toList = (shape h).chars := by
  simp [text, shape, Access.Shape.chars]

/-- The longer pattern asks for more quotes than the shorter form has. -/
theorem nginx_find?_text (h : l.IsWritten) : Access.nginx.pattern.find? l.text.toList = none := by
  by_contra hne
  obtain ⟨m, hm⟩ := Option.ne_none_iff_exists'.mp hne
  obtain ⟨w, later, htext, hreads⟩ := Pattern.find?_reads_nodes hm
  obtain ⟨s, request, status, bytes, tail, rfl, hrest, htail⟩ := Access.exists_shape hreads
  have hchars : (shape h).chars = (s.append later).chars := by
    rw [← text_eq_chars h, htext, Access.Shape.chars_append]
  have hrequests : l.request.toList ++ '"' :: ' ' :: (l.status.toList ++ ' ' :: l.bytes.toList) =
      s.rest ++ later := (Access.Shape.fields_eq hchars).2.2.2.2
  rw [hrest] at hrequests
  have hcount := congrArg (List.count '"') hrequests
  have htailcount := Access.count_quote_of_reads_agentNodes htail
  have hrequest : l.request.toList.count '"' = 0 :=
    List.count_eq_zero.mpr (h.request.notMem (by decide))
  have hstatus : l.status.toList.count '"' = 0 :=
    List.count_eq_zero.mpr (h.status.isRun.notMem (by decide))
  have hbytes : l.bytes.toList.count '"' = 0 := by
    rcases h.bytes with hbytes | ⟨hbytes, -⟩
    · simp [hbytes]
    · exact List.count_eq_zero.mpr (hbytes.notMem (by decide))
  simp [hrequest, hstatus, hbytes] at hcount
  omega

/-! ### What is made of a match -/

section Match

variable {m : Pattern.Match}

theorem status_eq (h : l.IsWritten)
    (hm : ∀ i ≤ 7, m.captured.lookup i = l.captured.lookup i) :
    number? m 6 UInt16.size = some (value l.status) :=
  have hvalue := h.status.value_lt
  number?_of_lookup (by decide) (hm 6 (by decide)) h.status.isRun (Nat.lt_trans hvalue (by decide))

theorem bytes_eq (h : l.IsWritten) (hm : ∀ i ≤ 7, m.captured.lookup i = l.captured.lookup i) :
    (number? m 7 UInt64.size).getD 0 = l.byteCount := by
  have hseven : m.captured.lookup 7 = some l.bytes.toList := hm 7 (by decide)
  rw [byteCount]
  rcases h.bytes with hbytes | ⟨hbytes, hlt⟩
  · rw [if_pos hbytes, number?, Pattern.Match.group?_eq_lookup (by decide), hseven, hbytes]
    decide
  · have hdash : l.bytes ≠ "-" := by
      intro hdash
      have hdigit := hbytes.all '-' (by simp [hdash])
      cases hdigit
    rw [if_neg hdash, number?_of_lookup (by decide) hseven hbytes hlt, Option.getD_some]

theorem clientFields_eq (h : l.IsWritten)
    (hm : ∀ i ≤ 7, m.captured.lookup i = l.captured.lookup i) :
    Access.clientFields m = [("ip", .string l.ip), ("user", .string l.user),
      ("status", .integer (value l.status)), ("bytes", .integer l.byteCount)] := by
  have hip : m.groupText 1 = l.ip := groupText_of_lookup (by decide) (hm 1 (by decide))
  have huser : m.groupText 3 = l.user := groupText_of_lookup (by decide) (hm 3 (by decide))
  rw [Access.clientFields, hip, huser, status_eq h hm, bytes_eq h hm, Option.getD_some]

theorem levelOfStatus_eq (l : AccessLine) :
    Access.levelOfStatus (value l.status) = l.level := by
  rw [Access.levelOfStatus, level]
  by_cases hclient : 400 ≤ value l.status ∧ value l.status ≤ 499
  · have hserver : ¬ (500 ≤ value l.status ∧ value l.status ≤ 599) := by omega
    rw [if_pos hclient, if_neg hserver, if_pos hclient]
  · rw [if_neg hclient, if_neg hclient]

theorem draft_eq (h : l.IsWritten) (hm : ∀ i ≤ 7, m.captured.lookup i = l.captured.lookup i)
    (service : String) (metadata : Json.Members) :
    Access.draft service metadata m =
      { level := l.level
        message := l.message
        service
        timestamp := Access.timestamp l.time.toList
        metadata := Keyed.ofList metadata } := by
  have hrequest : m.groupText 5 = l.request := groupText_of_lookup (by decide) (hm 5 (by decide))
  have htime : m.group 4 = l.time.toList := group_of_lookup (by decide) (hm 4 (by decide))
  rw [Access.draft, hrequest, htime, status_eq h hm, Option.getD_some, levelOfStatus_eq]
  rfl

end Match

variable (now : Time.Instant)

theorem apache_draft (h : l.IsWritten) :
    ∃ m, Access.apache.pattern.find? l.text.toList = some m ∧ Access.apache.draft now m =
      { level := l.level
        message := l.message
        service := "apache"
        timestamp := Access.timestamp l.time.toList
        metadata := [("bytes", .integer l.byteCount), ("ip", .string l.ip),
          ("status", .integer (value l.status)), ("user", .string l.user)] } := by
  obtain ⟨m, hm, hcaptured⟩ := apache_find? h
  have hlookup : ∀ i ≤ 7, m.captured.lookup i = l.captured.lookup i := fun i _ => by rw [hcaptured]
  refine ⟨m, hm, ?_⟩
  change Access.draft "apache" (Access.clientFields m) m = _
  rw [draft_eq h hlookup, clientFields_eq h hlookup]
  rfl

theorem nginx_draft (h : l.IsWritten) {referer agent : String} (hreferer : '"' ∉ referer.toList)
    (hagent : '"' ∉ agent.toList) :
    ∃ m, Access.nginx.pattern.find? (l.combinedText referer agent).toList = some m ∧
      Access.nginx.draft now m =
        { level := l.level
          message := l.message
          service := "nginx"
          timestamp := Access.timestamp l.time.toList
          metadata := [("bytes", .integer l.byteCount), ("ip", .string l.ip),
            ("referer", .string referer), ("status", .integer (value l.status)),
            ("user", .string l.user), ("userAgent", .string agent)] } := by
  obtain ⟨m, hm, hcaptured⟩ := nginx_find? h hreferer hagent
  have hlookup : ∀ i ≤ 7, m.captured.lookup i = l.captured.lookup i := by
    intro i hi
    have hnine : (i == 9) = false := by simpa using (by omega : i ≠ 9)
    have height : (i == 8) = false := by simpa using (by omega : i ≠ 8)
    rw [hcaptured, List.lookup_cons, hnine, List.lookup_cons, height]
  have hreferer : m.groupText 8 = referer := groupText_of_lookup (by decide) (by rw [hcaptured]; rfl)
  have hagent : m.groupText 9 = agent := groupText_of_lookup (by decide) (by rw [hcaptured]; rfl)
  refine ⟨m, hm, ?_⟩
  change Access.draft "nginx" (Access.clientFields m ++ Access.agentFields m) m = _
  rw [draft_eq h hlookup, clientFields_eq h hlookup, Access.agentFields, hreferer, hagent]
  rfl

end AccessLine

end Logbook.Rule
