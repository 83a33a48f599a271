import Logbook.Rule.Basic
import Logbook.Time.Layout

/-!
Lines of access logs: client, user, time, request, status and size, and in the longer form also
the referer and the user agent.
-/

namespace Logbook.Rule.Access

open Json (Value)

/-- `10/Oct/2000:13:55:36 -0700` -/
def layout : List Time.Item :=
  [.day, .literal '/', .monthName, .literal '/', .year, .literal ':', .hour, .literal ':',
    .minute, .literal ':', .second, .blanks, .offset]

/-- The time in UTC. A text that names no time stays as it is. -/
def timestamp (written : List Char) : String :=
  match Time.read? layout (.ofYear 0) written with
  | some t => t.text
  | none => String.ofList written

def levelOfStatus (status : Nat) : Level :=
  if 400 ≤ status ∧ status ≤ 499 then .warn
  else if 500 ≤ status ∧ status ≤ 599 then .error
  else .info

def clientFields (m : Pattern.Match) : Json.Members :=
  [("ip", .string (m.groupText 1)), ("user", .string (m.groupText 3)),
    ("status", .integer ((number? m 6 UInt16.size).getD 0)),
    ("bytes", .integer ((number? m 7 UInt64.size).getD 0))]

def agentFields (m : Pattern.Match) : Json.Members :=
  [("referer", .string (m.groupText 8)), ("userAgent", .string (m.groupText 9))]

def draft (service : String) (metadata : Json.Members) (m : Pattern.Match) : Draft :=
  let status := (number? m 6 UInt16.size).getD 0
  { level := levelOfStatus status
    message := m.groupText 5 ++ " - Status " ++ String.ofList (Nat.toDigits 10 status)
    service
    timestamp := timestamp (m.group 4)
    metadata := Keyed.ofList metadata }

/-- Client, identity, user, time, request, status and size. -/
def requestPattern : String :=
  r#"^(\S+) (\S+) (\S+) \[([\w:/]+\s[+\-]\d{4})\] "(.+?)" (\d{3}) (\d+|-)"#

/-- Referer and user agent. -/
def agentPattern : String := r#" "([^"]*)" "([^"]*)""#

def nginx : Rule where
  name := "Nginx Access Log"
  pattern := .ofText (requestPattern ++ agentPattern)
  draft := fun _ m => draft "nginx" (clientFields m ++ agentFields m) m

def apache : Rule where
  name := "Apache Access Log"
  pattern := .ofText requestPattern
  draft := fun _ m => draft "apache" (clientFields m) m

end Logbook.Rule.Access
