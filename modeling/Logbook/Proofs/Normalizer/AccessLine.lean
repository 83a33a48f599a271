import Logbook.Proofs.Normalizer.Unstructured
import Logbook.Proofs.Rule.Access

/-! Lines of access logs become the records of their fields, in the longer form and in the shorter. -/

namespace Logbook.Normalizer

open Rule (AccessLine)

variable {l : AccessLine}

theorem accessTimestamp_ne_empty (l : AccessLine) :
    Rule.Access.timestamp l.time.toList ≠ "" := by
  rw [Rule.Access.timestamp]
  split
  · exact text_ne_empty _
  · simp [AccessLine.time]

theorem lineObject?_combinedText (l : AccessLine) (referer agent : String) :
    lineObject? (l.combinedText referer agent) = none := by
  refine lineObject?_eq_none_of_getLast? (c := '"') ?_ (by decide) (by decide)
  rw [AccessLine.combinedText, String.toList_append, List.getLast?_append]
  rfl

theorem lineObject?_accessText (h : l.IsWritten) : lineObject? l.text = none := by
  obtain ⟨c, hlast, hc⟩ : ∃ c, l.bytes.toList.getLast? = some c ∧ (c = '-' ∨ c.isDigit = true) := by
    rcases h.bytes with hbytes | ⟨hbytes, -⟩
    · exact ⟨'-', by rw [hbytes]; rfl, .inl rfl⟩
    · have hlast := List.getLast?_eq_some_getLast hbytes.ne_nil
      exact ⟨_, hlast, .inr (hbytes.all _ (List.mem_of_getLast? hlast))⟩
  have hline : l.text.toList.getLast? = some c := by
    rw [AccessLine.text, String.toList_append, List.getLast?_append, hlast, Option.some_or]
  rcases hc with rfl | hc
  · exact lineObject?_eq_none_of_getLast? hline (by decide) (by decide)
  · refine lineObject?_eq_none_of_getLast? hline ?_ (Json.isSpace_of_isDigit hc)
    rintro rfl
    cases hc

/-- The longer form is a record of nginx, and cut behind the size it is one of apache. -/
theorem normalize_accessLine (custom : List Rule) (now : Time.Instant) (h : l.IsWritten)
    {referer agent : String} (hreferer : '"' ∉ referer.toList) (hagent : '"' ∉ agent.toList) :
    (builtin.extend custom).normalize now (l.combinedText referer agent) =
        { level := l.level
          message := l.message
          service := "nginx"
          timestamp := Rule.Access.timestamp l.time.toList
          metadata := [("bytes", .integer l.byteCount), ("ip", .string l.ip),
            ("referer", .string referer), ("status", .integer (Rule.value l.status)),
            ("user", .string l.user), ("userAgent", .string agent)] } ∧
      (builtin.extend custom).normalize now l.text =
        { level := l.level
          message := l.message
          service := "apache"
          timestamp := Rule.Access.timestamp l.time.toList
          metadata := [("bytes", .integer l.byteCount), ("ip", .string l.ip),
            ("status", .integer (Rule.value l.status)), ("user", .string l.user)] } := by
  have hmessage : l.message ≠ "" := by
    intro hempty
    simpa [AccessLine.message] using congrArg String.toList hempty
  have htimestamp := accessTimestamp_ne_empty l
  refine ⟨?combined, ?short⟩
  case combined =>
    obtain ⟨m, hm, hdraft⟩ := l.nginx_draft now h hreferer hagent
    rw [normalize_of_first custom now [] (lineObject?_combinedText l referer agent) rfl (by simp) hm,
      hdraft, complete_of_ne_empty now _ _ hmessage (by decide) htimestamp]
  case short =>
    have hnginx : ∀ r ∈ [Rule.Access.nginx], ¬ r.Matches l.text.toList := by
      simp [Rule.Matches, l.nginx_find?_text h]
    obtain ⟨m, hm, hdraft⟩ := l.apache_draft now h
    rw [normalize_of_first custom now _ (lineObject?_accessText h) rfl hnginx hm, hdraft,
      complete_of_ne_empty now _ _ hmessage (by decide) htimestamp]

/-- Quotes and brackets in the tokens, in the request and in the agent. -/
def quotedLine : AccessLine where
  ip := "\x7b\"["
  ident := "\""
  user := "[a]"
  clock := "10/Oct/2000:13:55:36"
  sign := '-'
  zone := "0700"
  request := "GET /[x] "
  status := "503"
  bytes := "007"

theorem normalize_accessLine_quoted :
    quotedLine.IsWritten ∧
      (builtin.extend [taggedRule "any" ""]).normalize ⟨0, 0⟩ (quotedLine.combinedText "" "[b] \x7d") =
        { level := .error
          message := "GET /[x]  - Status 503"
          service := "nginx"
          timestamp := "2000-10-10T20:55:36.000Z"
          metadata := [("bytes", .integer 7), ("ip", .string "\x7b\"["), ("referer", .string ""),
            ("status", .integer 503), ("user", .string "[a]"), ("userAgent", .string "[b] \x7d")] } := by
  have hwritten : quotedLine.IsWritten := by constructor <;> decide
  have htime : Rule.Access.timestamp quotedLine.time.toList = "2000-10-10T20:55:36.000Z" := by
    decide
  have hlevel : quotedLine.level = .error := by decide
  have hmessage : quotedLine.message = "GET /[x]  - Status 503" := by decide
  have hbytes : quotedLine.byteCount = 7 := by decide
  have hstatus : Rule.value quotedLine.status = 503 := by decide
  have hrecord := (normalize_accessLine [taggedRule "any" ""] ⟨0, 0⟩ hwritten
    (by decide : '"' ∉ "".toList) (by decide : '"' ∉ "[b] \x7d".toList)).1
  rw [htime, hlevel, hmessage, hbytes, hstatus] at hrecord
  exact ⟨hwritten, hrecord⟩

end Logbook.Normalizer
