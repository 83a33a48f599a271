import Logbook.Proofs.Rule.Parts
import Mathlib.Tactic.IntervalCases

/-! Lines of syslog under their pattern. -/

namespace Logbook.Rule

open Pattern (CharSet Node Captured isWord)
open Text (IsGap IsToken isBlank)

namespace Syslog

/-- Four tokens with white space behind them, and a character of a word. The first token is the name
of the month, perhaps with a priority in front of it. -/
structure Shape where
  priority : List Char
  month : List Char
  gap₁ : List Char
  day : List Char
  gap₂ : List Char
  clock : List Char
  gap₃ : List Char
  host : List Char
  gap₄ : List Char
  initial : Char
  rest : List Char
  priority_head : ∀ c ∈ priority.head?, c = '<'
  isToken_month : IsToken (priority ++ month)
  month_length : month.length = 3
  month_word : ∀ c ∈ month, isWord false c = true
  isGap₁ : IsGap gap₁
  isToken_day : IsToken day
  isGap₂ : IsGap gap₂
  isToken_clock : IsToken clock
  isGap₃ : IsGap gap₃
  isToken_host : IsToken host
  isGap₄ : IsGap gap₄
  initial_word : isWord false initial = true

namespace Shape

def chars (s : Shape) : List Char :=
  s.priority ++ s.month ++ (s.gap₁ ++ (s.day ++ (s.gap₂ ++ (s.clock ++ (s.gap₃ ++ (s.host ++
    (s.gap₄ ++ s.initial :: s.rest)))))))

def append (s : Shape) (later : List Char) : Shape := { s with rest := s.rest ++ later }

@[simp] theorem chars_append (s : Shape) (later : List Char) :
    (s.append later).chars = s.chars ++ later := by
  simp [chars, append]

theorem words_chars (s : Shape) : Text.words s.chars =
    (s.priority ++ s.month) :: s.day :: s.clock :: s.host :: Text.words (s.initial :: s.rest) := by
  rw [chars, Text.words_token_append s.isToken_month s.isGap₁,
    Text.words_token_append s.isToken_day s.isGap₂,
    Text.words_token_append s.isToken_clock s.isGap₃,
    Text.words_token_append s.isToken_host s.isGap₄]

/-- A priority, or a word of three characters. -/
theorem chars_start (s : Shape) : s.chars.head? = some '<' ∨
    ∃ c b, s.chars.head? = some c ∧ isWord false c = true ∧ s.chars[3]? = some b ∧
      isBlank b = true := by
  rcases hpriority : s.priority with _ | ⟨c, priority⟩
  · obtain ⟨b, gap, hgap⟩ := List.exists_cons_of_ne_nil s.isGap₁.ne_nil
    obtain ⟨c, month, hmonth⟩ := List.exists_cons_of_length_eq_add_one s.month_length
    have hthree : 3 - s.month.length = 0 := by rw [s.month_length]
    refine .inr ⟨c, b, ?_, s.month_word c (by simp [hmonth]), ?_, s.isGap₁.blank b (by simp [hgap])⟩
    · simp [chars, hpriority, hmonth]
    · rw [chars, hpriority, List.nil_append, List.getElem?_append_right s.month_length.le, hthree, hgap]
      rfl
  · have hc : c = '<' := s.priority_head c (by simp [hpriority])
    exact .inl (by simp [chars, hpriority, hc])

end Shape

theorem priority_of_reads {w : List Char} (h : (optional priorityNode).Reads w) :
    (∀ c ∈ w.head?, c = '<') ∧ ∀ c ∈ w, isBlank c = false := by
  rcases h.optional with rfl | h
  · simp
  · obtain ⟨w₁, h₁, rfl⟩ := (Node.reads_literal_iff "<").mp h
    obtain ⟨w₂, w₃, h₂, h₃, rfl⟩ := Node.reads_ofList_cons_iff.mp h₁
    obtain rfl := (Node.reads_ofList_literal_iff ">").mp h₃
    have hdigits := (Node.reads_group_iff.mp h₂).loop_chars.1
    have hopen : isBlank '<' = false := by decide
    have hclose : isBlank '>' = false := by decide
    refine ⟨by simp, ?_⟩
    simp only [List.forall_mem_append]
    exact ⟨by simp [hopen], fun c hc => not_isBlank_of_decimal (hdigits c hc), by simp [hclose]⟩

theorem clock_of_reads {w : List Char} (h : (Node.ofList (exactly 2 decimal :: (Node.literal ":" ++
    (exactly 2 decimal :: (Node.literal ":" ++ [exactly 2 decimal]))))).Reads w) : IsToken w := by
  obtain ⟨hour, w₁, hhour, h₁, rfl⟩ := Node.reads_ofList_cons_iff.mp h
  obtain ⟨w₂, h₂, rfl⟩ := (Node.reads_literal_iff ":").mp h₁
  obtain ⟨minute, w₃, hminute, h₃, rfl⟩ := Node.reads_ofList_cons_iff.mp h₂
  obtain ⟨second, hsecond, rfl⟩ := (Node.reads_literal_iff ":").mp h₃
  have hcolon : isBlank ':' = false := by decide
  have hdigits {u : List Char} (hu : (exactly 2 decimal).Reads u) : ∀ c ∈ u, isBlank c = false :=
    fun c hc => not_isBlank_of_decimal ((reads_exactly hu).2 c hc)
  refine ⟨by simp, ?_⟩
  simp only [List.forall_mem_append]
  exact ⟨hdigits hhour, by simp [hcolon], hdigits hminute, by simp [hcolon], hdigits hsecond⟩

theorem exists_shape {w : List Char} (h : (Node.ofList nodes).Reads w) : ∃ s : Shape, w = s.chars := by
  obtain ⟨priority, w₁, hpriority, h₁, rfl⟩ := Node.reads_ofList_cons_iff.mp h
  obtain ⟨time, w₂, htime, h₂, rfl⟩ := Node.reads_ofList_cons_iff.mp h₁
  obtain ⟨gap₃, w₃, hgap₃, h₃, rfl⟩ := Node.reads_ofList_cons_iff.mp h₂
  obtain ⟨host, w₄, hhost, h₄, rfl⟩ := Node.reads_ofList_cons_iff.mp h₃
  obtain ⟨gap₄, w₅, hgap₄, h₅, rfl⟩ := Node.reads_ofList_cons_iff.mp h₄
  obtain ⟨process, rest, hprocess, -, rfl⟩ := Node.reads_ofList_cons_iff.mp h₅
  obtain ⟨month, w₆, hmonth, h₆, rfl⟩ := Node.reads_ofList_cons_iff.mp (Node.reads_group_iff.mp htime)
  obtain ⟨gap₁, w₇, hgap₁, h₇, rfl⟩ := Node.reads_ofList_cons_iff.mp h₆
  obtain ⟨day, w₈, hday, h₈, rfl⟩ := Node.reads_ofList_cons_iff.mp h₇
  obtain ⟨gap₂, clock, hgap₂, hclock, rfl⟩ := Node.reads_ofList_cons_iff.mp h₈
  obtain ⟨hhead, hvisible⟩ := priority_of_reads hpriority
  obtain ⟨hlength, hword⟩ := reads_exactly hmonth
  obtain ⟨hday, hleast, -⟩ := hday.loop_chars
  obtain ⟨hne, hprocess⟩ := reads_many (Node.reads_group_iff.mp hprocess)
  obtain ⟨initial, process, rfl⟩ := List.exists_cons_of_ne_nil hne
  have hmonth : ∀ c ∈ month, isBlank c = false := fun c hc => not_isBlank_of_isWord (hword c hc)
  have hmonthNe : month ≠ [] := by
    rintro rfl
    cases hlength
  exact ⟨{ priority, month, gap₁, day, gap₂, clock, gap₃, host, gap₄, initial
           rest := process ++ rest
           priority_head := hhead
           isToken_month := ⟨by simp [hmonthNe], List.forall_mem_append.mpr ⟨hvisible, hmonth⟩⟩
           month_length := hlength
           month_word := hword
           isGap₁ := isGap_of_reads hgap₁
           isToken_day := ⟨List.length_pos_iff.mp hleast, fun c hc => not_isBlank_of_decimal (hday c hc)⟩
           isGap₂ := isGap_of_reads hgap₂
           isToken_clock := clock_of_reads hclock
           isGap₃ := isGap_of_reads hgap₃
           isToken_host := isToken_of_reads (Node.reads_group_iff.mp hhost)
           isGap₄ := isGap_of_reads hgap₄
           initial_word := hprocess initial (by simp) }, by simp [Shape.chars]⟩

end Syslog

/-! ### Lines that are written -/

namespace SyslogLine

variable {l : SyslogLine} {w later : List Char}

/-- What the groups capture. -/
def captured (l : SyslogLine) : Captured :=
  (6, l.message.toList) :: (l.pid.map fun p => (5, p.toList)).toList ++
    [(4, l.process.toList), (3, l.host.toList), (2, l.time.toList)] ++
    (l.priority.map fun p => (1, p.toList)).toList

theorem prefers_clock (h : l.IsWritten) (later : List Char) :
    (Node.ofList (exactly 2 decimal :: (Node.literal ":" ++
      (exactly 2 decimal :: (Node.literal ":" ++ [exactly 2 decimal]))))).Prefers
      (l.hour.toList ++ ':' :: (l.minute.toList ++ ':' :: l.second.toList)) later [] := by
  have hsecond := ((h.second.1.prefers later).ofList_cons
    (Node.prefers_ofList_nil later)).ofList_literal ":"
  have hminute := ((h.minute.1.prefers _).ofList_cons hsecond).ofList_literal ":"
  simpa using (h.hour.1.prefers _).ofList_cons hminute

theorem prefers_day (h : l.IsWritten) (rest : List Char) :
    (Node.loop 1 (some 2) true (.chars decimal)).Prefers l.day.toList (' ' :: rest) [] := by
  have hspace : decimal.has ' ' = false := by decide
  have hlength : 1 ≤ l.day.toList.length ∧ l.day.toList.length ≤ 2 := by
    rcases h.day with hday | hday <;> simp [hday.length]
  have hdigits : ∀ c ∈ l.day.toList, decimal.has c = true := by
    intro c hc
    rcases h.day with hday | hday <;> exact has_decimal_of_isDigit (hday.all c hc)
  exact Node.prefers_loop hdigits hlength.1 (by simpa using hlength.2)
    (.inr (CharSet.stops_cons.mpr hspace))

theorem prefers_time (h : l.IsWritten) (later : List Char) :
    (Node.ofList Syslog.timeNodes).Prefers l.time.toList later [] := by
  obtain ⟨hlength, hword⟩ := monthName_spec l
  have hmonth (rest : List Char) :
      (exactly 3 word).Prefers l.monthName.toList rest [] :=
    prefers_exactly hlength (fun c hc => has_word_iff.mpr (isWord_of_ascii (hword c hc))) rest
  obtain ⟨hourDigit, hourRest, hhour, hhourBlank⟩ := h.hour.1.exists_cons
  obtain ⟨dayDigit, dayRest, hday, hdayBlank⟩ : ∃ c rest, l.day.toList = c :: rest ∧ isBlank c = false :=
    h.day.elim IsDigits.exists_cons IsDigits.exists_cons
  have hclock := (prefers_gap (by simp [hhour]) hhourBlank).ofList_cons (prefers_clock h later)
  have hdayClock := (prefers_gap (by simp [hday]) hdayBlank).ofList_cons
    ((prefers_day h _).ofList_cons hclock)
  simpa [time, Syslog.timeNodes] using (hmonth _).ofList_cons hdayClock

theorem prefers_message (h : l.IsWritten) :
    (Node.ofList (Node.literal ":" ++ [many blank, .group 6 (many inLine)])).Prefers
      (':' :: ' ' :: l.message.toList) [] [(6, l.message.toList)] := by
  simpa using (h.message.prefers 6).ofList_literal ":"

theorem prefers_pid (h : l.IsWritten) (rest : List Char) :
    (optional Syslog.pidNode).Prefers (l.pid.elim "" fun p => "[" ++ p ++ "]").toList (':' :: rest)
      (l.pid.map fun p => (5, p.toList)).toList := by
  cases hpid : l.pid with
  | none =>
    have hbracket : (CharSet.just '[').has ':' = false := by decide
    exact ((Node.fails_chars (CharSet.stops_cons.mpr hbracket)).ofList_cons _).optional
  | some p =>
    have hbracket : decimal.has ']' = false := by decide
    have hdigits (later : List Char) : (many decimal).Prefers p.toList (']' :: later) [] :=
      (h.pid p hpid).1.prefers (fun _ => has_decimal_of_isDigit) (CharSet.stops_cons.mpr hbracket)
    have hclose := (Node.prefers_ofList_nil (':' :: rest)).ofList_literal "]"
    have hnode := (((hdigits _).group 5).ofList_cons hclose).ofList_literal "["
    simpa [Syslog.pidNode, optional] using hnode.optional

theorem prefers_priority (h : l.IsWritten) (hstops : (CharSet.just '<').Stops later) :
    (optional Syslog.priorityNode).Prefers (l.priority.elim "" fun p => "<" ++ p ++ ">").toList later
      (l.priority.map fun p => (1, p.toList)).toList := by
  cases hpriority : l.priority with
  | none => exact ((Node.fails_chars hstops).ofList_cons _).optional
  | some p =>
    have hangle : decimal.has '>' = false := by decide
    obtain ⟨hrun, hlength, -⟩ := h.priority p hpriority
    have hdigits (later : List Char) :
        (Node.loop 1 (some 3) true (.chars decimal)).Prefers p.toList ('>' :: later) [] :=
      Node.prefers_loop (fun c hc => has_decimal_of_isDigit (hrun.all c hc))
        (List.length_pos_iff.mpr hrun.ne_nil) (by simpa using hlength)
        (.inr (CharSet.stops_cons.mpr hangle))
    have hclose := (Node.prefers_ofList_nil later).ofList_literal ">"
    have hnode := (((hdigits _).group 1).ofList_cons hclose).ofList_literal "<"
    simpa [Syslog.priorityNode, optional] using hnode.optional

theorem time_not_priority (l : SyslogLine) (rest : List Char) :
    (CharSet.just '<').Stops (l.time.toList ++ rest) := by
  obtain ⟨hlength, hword⟩ := monthName_spec l
  obtain ⟨c, month, hmonth⟩ := List.exists_cons_of_length_eq_add_one hlength
  have htime : l.time.toList ++ rest = c :: ((l.time.toList ++ rest).drop 1) := by
    simp [time, hmonth]
  rw [htime, CharSet.stops_cons, Bool.eq_false_iff, Ne, CharSet.has_just_iff]
  rintro rfl
  have hangle : isWord true '<' = true := hword '<' (by simp [hmonth])
  exact absurd hangle (by decide)

theorem find?_text (h : l.IsWritten) :
    ∃ m, Syslog.rule.pattern.find? l.text.toList = some m ∧ m.captured = l.captured := by
  have hspace : visible.has ' ' = false := by decide
  obtain ⟨c, rest, hc⟩ := List.exists_cons_of_ne_nil h.process.ne_nil
  obtain ⟨d, rest', hd⟩ := List.exists_cons_of_ne_nil h.host.ne_nil
  have hprocessBlank : isBlank c = false := not_isBlank_of_isWord (h.process.all c (by simp [hc]))
  have hhostBlank : isBlank d = false := h.host.isToken.notBlank d (by simp [hd])
  have hmark : word.Stops ((l.pid.elim "" fun p => "[" ++ p ++ "]").toList ++
      ':' :: ' ' :: l.message.toList) := by
    cases l.pid <;> simp [CharSet.stops_cons] <;> decide
  have hpid := (prefers_pid h _).ofList_cons (prefers_message h)
  have hword := h.process.prefers (fun _ => has_word_iff.mpr) hmark
  rw [← List.append_nil (_ ++ _ :: _)] at hword
  have hprocess := (hword.group 4).ofList_cons hpid
  have hprocessGap := (prefers_gap (by simp [hc]) hprocessBlank).ofList_cons hprocess
  have hvisible (later : List Char) : (many visible).Prefers l.host.toList (' ' :: later) [] :=
    h.host.prefers (fun _ => has_visible_of_isVisible) (CharSet.stops_cons.mpr hspace)
  have hhost := ((hvisible _).group 3).ofList_cons hprocessGap
  have hhostGap := (prefers_gap (by simp [hd]) hhostBlank).ofList_cons hhost
  have htime := ((prefers_time h _).group 2).ofList_cons hhostGap
  have hpriority := (prefers_priority h (by simpa using time_not_priority l _)).ofList_cons htime
  simpa [text, captured] using Pattern.find?_of_prefers Syslog.rule.pattern hpriority

/-! ### What is made of a match -/

theorem levelOfPriority_eq {p : String} (h : l.priority = some p) :
    Syslog.levelOfPriority (value p) = l.level := by
  obtain ⟨n, hn⟩ : ∃ n, n = value p % 8 := ⟨_, rfl⟩
  have hlt : n < 8 := by omega
  simp only [level, h, Syslog.levelOfPriority, ← hn]
  interval_cases n <;> rfl

theorem priority_eq (h : l.IsWritten) {m : Pattern.Match} (hm : m.captured = l.captured) :
    number? m 1 UInt8.size = l.priority.map value := by
  cases hpriority : l.priority with
  | none =>
    refine number?_of_lookup_none (by decide) ?_
    rw [hm, captured, hpriority]
    cases l.pid <;> rfl
  | some p =>
    obtain ⟨hrun, -, hle⟩ := h.priority p hpriority
    refine number?_of_lookup (by decide) ?_ hrun (Nat.lt_succ_of_le hle)
    rw [hm, captured, hpriority]
    cases l.pid <;> rfl

theorem pid_eq (h : l.IsWritten) {m : Pattern.Match} (hm : m.captured = l.captured) :
    number? m 5 UInt64.size = l.pid.map value := by
  cases hpid : l.pid with
  | none =>
    refine number?_of_lookup_none (by decide) ?_
    rw [hm, captured, hpid]
    cases l.priority <;> rfl
  | some p =>
    obtain ⟨hrun, hlt⟩ := h.pid p hpid
    refine number?_of_lookup (by decide) ?_ hrun hlt
    rw [hm, captured, hpid]
    rfl

theorem metadata_eq (h : l.IsWritten) {m : Pattern.Match} (hm : m.captured = l.captured) :
    Keyed.ofList (Syslog.metadata m (number? m 1 UInt8.size)) = l.metadata := by
  have hprocess : m.groupText 4 = l.process := by
    refine groupText_of_lookup (by decide) ?_
    rw [hm, captured]
    cases l.pid <;> rfl
  rw [Syslog.metadata, priority_eq h hm, pid_eq h hm, hprocess, metadata]
  cases l.priority <;> cases l.pid <;> rfl

theorem draft_text (h : l.IsWritten) (now : Time.Instant) :
    ∃ m, Syslog.rule.pattern.find? l.text.toList = some m ∧ Syslog.rule.draft now m =
      { level := l.level
        message := l.message
        service := l.host
        timestamp := Syslog.timestamp now l.time.toList
        metadata := l.metadata } := by
  obtain ⟨m, hm, hcaptured⟩ := find?_text h
  have hmessage : m.groupText 6 = l.message :=
    groupText_of_lookup (by decide) (by rw [hcaptured]; rfl)
  have hhost : m.groupText 3 = l.host := by
    refine groupText_of_lookup (by decide) ?_
    rw [hcaptured, captured]
    cases l.pid <;> rfl
  have htime : m.group 2 = l.time.toList := by
    refine group_of_lookup (by decide) ?_
    rw [hcaptured, captured]
    cases l.pid <;> rfl
  have hlevel : ((number? m 1 UInt8.size).map Syslog.levelOfPriority).getD .info = l.level := by
    rw [priority_eq h hcaptured]
    cases hpriority : l.priority with
    | none => rw [level, hpriority]; rfl
    | some p => exact levelOfPriority_eq hpriority
  refine ⟨m, hm, ?_⟩
  change Syslog.draft now m = _
  rw [Syslog.draft, hlevel, hmessage, hhost, htime, metadata_eq h hcaptured]

end SyslogLine

end Logbook.Rule
