import Logbook.Json.Value
import Logbook.Pattern.Node
import Logbook.Record.Level
import Logbook.Text.Blank
import Logbook.Text.DigitRanges
import Logbook.Text.Digits
import Logbook.Time.Instant
import Logbook.Time.Moment

/-!
Lines as servers, syslog and Log4j write them, field by field, and what each field has to be so that
it can be told from what stands around it.
-/

namespace Logbook.Rule

section Fields

variable {kind : Char → Bool}

/-- Not empty, and all of one kind. -/
structure IsRun (kind : Char → Bool) (s : String) : Prop where
  nonempty : s ≠ ""
  all : ∀ c ∈ s.toList, kind c = true

instance (s : String) : Decidable (IsRun kind s) :=
  decidable_of_iff (s ≠ "" ∧ s.toList.all kind = true)
    ⟨fun ⟨h₁, h₂⟩ => ⟨h₁, List.all_eq_true.mp h₂⟩, fun ⟨h₁, h₂⟩ => ⟨h₁, List.all_eq_true.mpr h₂⟩⟩

/-- So many ASCII digits. -/
structure IsDigits (n : Nat) (s : String) : Prop where
  length : s.toList.length = n
  all : ∀ c ∈ s.toList, c.isDigit = true

instance (n : Nat) (s : String) : Decidable (IsDigits n s) :=
  decidable_of_iff (s.toList.length = n ∧ s.toList.all Char.isDigit = true)
    ⟨fun ⟨h₁, h₂⟩ => ⟨h₁, List.all_eq_true.mp h₂⟩, fun ⟨h₁, h₂⟩ => ⟨h₁, List.all_eq_true.mpr h₂⟩⟩

end Fields

def isVisible (c : Char) : Bool := !Text.isBlank c

/-- The number that ASCII digits write. -/
def value (s : String) : Nat := Text.digitsValue s.toList

/-- The English abbreviations of the months. -/
def monthAbbreviations : Vector String 12 :=
  #v["Jan", "Feb", "Mar", "Apr", "May", "Jun", "Jul", "Aug", "Sep", "Oct", "Nov", "Dec"]

/-- A message: one line that does not begin with white space. -/
structure IsMessage (s : String) : Prop where
  nonempty : s ≠ ""
  noLineFeed : '\n' ∉ s.toList
  start : ∀ c ∈ s.toList.head?, Text.isBlank c = false

instance (s : String) : Decidable (IsMessage s) :=
  decidable_of_iff (s ≠ "" ∧ '\n' ∉ s.toList ∧ s.toList.head?.any Text.isBlank = false)
    ⟨fun ⟨h₁, h₂, h₃⟩ => ⟨h₁, h₂, (Option.any_eq_false _ _).mp h₃⟩, fun ⟨h₁, h₂, h₃⟩ =>
      ⟨h₁, h₂, (Option.any_eq_false _ _).mpr h₃⟩⟩

/-! ### Access logs -/

/-- A line of an access log up to the size. The time is a clock and how far it is ahead of UTC. -/
structure AccessLine where
  ip : String
  ident : String
  user : String
  clock : String
  sign : Char
  zone : String
  request : String
  status : String
  bytes : String

namespace AccessLine

variable (l : AccessLine)

def time : String := l.clock ++ " " ++ String.singleton l.sign ++ l.zone

def text : String :=
  l.ip ++ " " ++ l.ident ++ " " ++ l.user ++ " [" ++ l.time ++ "] \"" ++ l.request ++ "\" " ++
    l.status ++ " " ++ l.bytes

/-- The longer form, with the referer and the user agent. -/
def combinedText (referer agent : String) : String :=
  l.text ++ " \"" ++ referer ++ "\" \"" ++ agent ++ "\""

/-- Zero where no body was sent. -/
def byteCount : Nat := if l.bytes = "-" then 0 else value l.bytes

/-- Server errors, client errors and all else. -/
def level : Level :=
  if 500 ≤ value l.status ∧ value l.status ≤ 599 then .error
  else if 400 ≤ value l.status ∧ value l.status ≤ 499 then .warn
  else .info

def message : String := l.request ++ " - Status " ++ toString (value l.status)

structure IsWritten : Prop where
  ip : IsRun isVisible l.ip
  ident : IsRun isVisible l.ident
  user : IsRun isVisible l.user
  clock : IsRun (fun c => Pattern.isWord true c || c == ':' || c == '/') l.clock
  sign : l.sign = '+' ∨ l.sign = '-'
  zone : IsDigits 4 l.zone
  request : IsRun (fun c => c != '"' && c != '\n') l.request
  status : IsDigits 3 l.status
  bytes : l.bytes = "-" ∨ IsRun Char.isDigit l.bytes ∧ value l.bytes < UInt64.size

end AccessLine

/-- A text that an access log could have for its time: a clock, one character of white space, a sign
and four digits. -/
def IsAccessTime (s : List Char) : Prop :=
  ∃ clock b sign zone, s = clock ++ b :: sign :: zone ∧ clock ≠ [] ∧
    (∀ c ∈ clock, Pattern.isWord false c = true ∨ c = ':' ∨ c = '/') ∧ Text.isBlank b = true ∧
    (sign = '+' ∨ sign = '-') ∧ zone.length = 4 ∧ ∀ c ∈ zone, Text.digitRanges.has c.toNat = true

/-- The time of an access log, `10/Oct/2000:13:55:36 -0700`; months are counted from zero. -/
structure AccessTime where
  day : String
  month : Fin 12
  year : String
  hour : String
  minute : String
  second : String
  sign : Char
  zoneHour : String
  zoneMinute : String

namespace AccessTime

variable (t : AccessTime)

def text : String :=
  t.day ++ "/" ++ monthAbbreviations[t.month] ++ "/" ++ t.year ++ ":" ++ t.hour ++ ":" ++ t.minute ++
    ":" ++ t.second ++ " " ++ String.singleton t.sign ++ t.zoneHour ++ t.zoneMinute

/-- Date and clock, as they are where the line was written. -/
def moment : Time.Moment :=
  ⟨⟨value t.year, t.month.val + 1, value t.day⟩, value t.hour, value t.minute, value t.second⟩

/-- How many seconds the clock is ahead of UTC. -/
def offset : Int :=
  let zone : Int := value t.zoneHour * 3600 + value t.zoneMinute * 60
  if t.sign = '-' then -zone else zone

/-- The second in UTC. -/
def instant : Int := t.moment.seconds - t.offset

structure IsWritten : Prop where
  day : IsDigits 2 t.day
  year : IsDigits 4 t.year
  hour : IsDigits 2 t.hour ∧ value t.hour ≤ 23
  minute : IsDigits 2 t.minute ∧ value t.minute ≤ 59
  second : IsDigits 2 t.second ∧ value t.second ≤ 59
  sign : t.sign = '+' ∨ t.sign = '-'
  zoneHour : IsDigits 2 t.zoneHour
  zoneMinute : IsDigits 2 t.zoneMinute

/-- The date is one of the calendar, and no clock is a day or more ahead or behind. -/
structure IsActual : Prop where
  date : t.moment.date.isValid = true
  zoneHour : value t.zoneHour ≤ 23
  zoneMinute : value t.zoneMinute ≤ 59

/-- All years of four digits but the first and the last: in UTC it may be the year before or after. -/
def IsInner : Prop := 1 ≤ value t.year ∧ value t.year ≤ 9998

end AccessTime

/-! ### Syslog -/

/-- A line of syslog; months are counted from zero. -/
structure SyslogLine where
  priority : Option String
  month : Fin 12
  day : String
  hour : String
  minute : String
  second : String
  host : String
  process : String
  pid : Option String
  message : String

namespace SyslogLine

variable (l : SyslogLine)

def monthName : String := monthAbbreviations[l.month]

def time : String :=
  l.monthName ++ " " ++ l.day ++ " " ++ l.hour ++ ":" ++ l.minute ++ ":" ++ l.second

def text : String :=
  l.priority.elim "" (fun p => "<" ++ p ++ ">") ++ l.time ++ " " ++ l.host ++ " " ++ l.process ++
    l.pid.elim "" (fun p => "[" ++ p ++ "]") ++ ": " ++ l.message

/-- The severity is the priority modulo eight. -/
def level : Level :=
  match l.priority with
  | none => .info
  | some p =>
    if value p % 8 ≤ 3 then .error
    else if value p % 8 = 4 then .warn
    else if value p % 8 ≤ 6 then .info
    else .debug

/-- Process and process number, priority and facility, in the order of keys. -/
def metadata : Json.Members :=
  (l.priority.map fun p => ("facility", Json.Value.integer (value p / 8 : Nat))).toList ++
    (l.pid.map fun p => ("pid", Json.Value.integer (value p))).toList ++
    (l.priority.map fun p => ("priority", Json.Value.integer (value p))).toList ++
    [("process", Json.Value.string l.process)]

/-- The date in a year. -/
def date (year : Int) : Time.Date := ⟨year, l.month.val + 1, value l.day⟩

/-- The time in a year, in UTC. -/
def utc (year : Int) : String :=
  String.ofList (Time.Instant.yearText year) ++ "-" ++ String.ofList (Text.padded 2 (l.month.val + 1)) ++
    "-" ++ String.ofList (Text.padded 2 (value l.day)) ++
    "T" ++ l.hour ++ ":" ++ l.minute ++ ":" ++ l.second ++ ".000Z"

structure IsWritten : Prop where
  priority : ∀ p ∈ l.priority, IsRun Char.isDigit p ∧ p.toList.length ≤ 3 ∧ value p ≤ 255
  day : IsDigits 1 l.day ∨ IsDigits 2 l.day
  hour : IsDigits 2 l.hour ∧ value l.hour ≤ 23
  minute : IsDigits 2 l.minute ∧ value l.minute ≤ 59
  second : IsDigits 2 l.second ∧ value l.second ≤ 59
  host : IsRun isVisible l.host
  process : IsRun (Pattern.isWord false) l.process
  pid : ∀ p ∈ l.pid, IsRun Char.isDigit p ∧ value p < UInt64.size
  message : IsMessage l.message

end SyslogLine

/-! ### Log4j -/

structure Log4jLine where
  year : String
  month : String
  day : String
  hour : String
  minute : String
  second : String
  millis : String
  level : String
  context : String
  message : String

namespace Log4jLine

variable (l : Log4jLine)

def time : String :=
  l.year ++ "-" ++ l.month ++ "-" ++ l.day ++ " " ++ l.hour ++ ":" ++ l.minute ++ ":" ++ l.second ++
    "," ++ l.millis

def text : String :=
  l.time ++ " " ++ l.level ++ " [" ++ l.context ++ "] " ++ l.message

/-- Whether there is such a time; the seconds are bounded by `IsWritten`. -/
def isTime : Bool :=
  Time.Date.isValid ⟨value l.year, value l.month, value l.day⟩ && value l.hour ≤ 23 &&
    value l.minute ≤ 59

/-- The time, taken to be in UTC. -/
def utc : String :=
  l.year ++ "-" ++ l.month ++ "-" ++ l.day ++ "T" ++ l.hour ++ ":" ++ l.minute ++ ":" ++ l.second ++
    "." ++ l.millis ++ "Z"

structure IsWritten : Prop where
  year : IsDigits 4 l.year
  month : IsDigits 2 l.month
  day : IsDigits 2 l.day
  hour : IsDigits 2 l.hour
  minute : IsDigits 2 l.minute
  second : IsDigits 2 l.second ∧ value l.second ≤ 59
  millis : IsDigits 3 l.millis
  level : IsRun (Pattern.isWord false) l.level
  context : IsRun (fun c => c != ']' && c != '\n') l.context
  /-- Otherwise the line could be one of an access log. -/
  notAccessTime : ¬ IsAccessTime l.context.toList
  message : IsMessage l.message

end Log4jLine

end Logbook.Rule
