import Logbook.Cli.Basic
import Logbook.Proofs.Normalizer.Framing

/-! What is printed of the lines that are read. Bytes are texts line by line up to their end, or up to
the first line that is broken. Records are printed one behind the other as long as there are texts; a
table needs them all. -/

namespace Logbook

open Text (Framing IsBroken)
open Text.Utf8 (encode)

namespace Text

theorem isBroken_iff {segment : List UInt8} : IsBroken segment ↔ Utf8.decode? segment = none := by
  rw [Option.eq_none_iff_forall_ne_some]
  exact forall_congr' fun text => not_congr (by rw [Utf8.decode?_eq_some_iff, eq_comm])

/-- Segments are texts, all of them or those in front of one that is broken. -/
theorem exists_texts (segments : List (List UInt8)) :
    (∃ texts : List String, segments = texts.map encode) ∨
      ∃ (texts : List String) (broken : List UInt8) (rest : List (List UInt8)),
        segments = texts.map encode ++ broken :: rest ∧ IsBroken broken := by
  induction segments with
  | nil => exact .inl ⟨[], rfl⟩
  | cons segment segments ih =>
    cases hdecode : Utf8.decode? segment with
    | none => exact .inr ⟨[], segment, segments, rfl, isBroken_iff.mpr hdecode⟩
    | some text =>
      rw [Utf8.decode?_eq_some_iff.mp hdecode]
      rcases ih with ⟨texts, rfl⟩ | ⟨texts, broken, rest, rfl, hbroken⟩
      · exact .inl ⟨text :: texts, rfl⟩
      · exact .inr ⟨text :: texts, broken, rest, rfl, hbroken⟩

theorem not_isBroken_encode (text : String) : ¬ IsBroken (encode text) :=
  fun hbroken => hbroken text rfl

end Text

namespace Normalizer

variable (n : Normalizer) (now : Time.Instant) {f : Framing} {texts : List String}

theorem normalizeBytesLines_texts (h : f.segments = texts.map encode) :
    n.normalizeBytesLines now f.bytes = (texts.map (n.normalize now)).map some := by
  rw [normalizeBytesLines_bytes, h, List.map_map, List.map_map]
  exact List.map_congr_left fun text _ => by simp [Text.Utf8.decode?_encode]

theorem normalizeBytesLines_broken {broken : List UInt8} {rest : List (List UInt8)}
    (h : f.segments = texts.map encode ++ broken :: rest)
    (hbroken : IsBroken broken) :
    ∃ answers, n.normalizeBytesLines now f.bytes =
      (texts.map (n.normalize now)).map some ++ none :: answers := by
  refine ⟨rest.map fun segment => (Text.Utf8.decode? segment).map (n.normalize now), ?_⟩
  rw [normalizeBytesLines_bytes, h, List.map_append, List.map_cons, Text.isBroken_iff.mp hbroken,
    List.map_map, List.map_map]
  exact congrArg (· ++ _) (List.map_congr_left fun text _ => by simp [Text.Utf8.decode?_encode])

end Normalizer

namespace Cli

variable {s : Setting} {records : List Record}

/-- What is printed when every line has a record. -/
def Setting.shown (s : Setting) (records : List Record) : Output → String
  | .json => lines (records.map fun r => r.toJson.compact)
  | .table => s.recordTable records

/-- What is printed when a line behind the records is broken. -/
def shownBefore (records : List Record) : Output → String
  | .json => lines (records.map fun r => r.toJson.compact)
  | .table => ""

/-- Records that are printed are behind one another, and what follows them is behind them all. -/
theorem printEach_append (printed : String) (records : List Record) (rest : List (Option Record)) :
    printEach printed (records.map some ++ rest) =
      printEach (printed ++ lines (records.map fun r => r.toJson.compact)) rest := by
  induction records generalizing printed with
  | nil => simp [lines]
  | cons r records ih =>
    rw [List.map_cons, List.cons_append, printEach, ih]
    simp [lines, String.append_assoc]

theorem printRecords_some (s : Setting) (records : List Record) (output : Output) :
    s.printRecords (records.map some) output = .success (s.shown records output) := by
  cases output with
  | json => simpa [Setting.printRecords, Setting.shown, printEach] using printEach_append "" records []
  | table =>
    have hall : (records.map some).mapM id = some records :=
      Text.Utf8.mapM_id_eq_some_iff.mpr rfl
    rw [Setting.printRecords, hall]
    rfl

/-- What follows a line that is broken is not printed. -/
theorem printRecords_none (s : Setting) (records : List Record) (rest : List (Option Record))
    (output : Output) :
    s.printRecords (records.map some ++ none :: rest) output =
      .failure (shownBefore records output) "" := by
  cases output with
  | json =>
    simpa [Setting.printRecords, shownBefore, printEach] using
      printEach_append "" records (none :: rest)
  | table =>
    have hnone : (records.map some ++ none :: rest).mapM id = none := by
      rw [Option.eq_none_iff_forall_ne_some]
      intro all hall
      have hmem : none ∈ all.map some := by
        rw [← Text.Utf8.mapM_id_eq_some_iff.mp hall]
        simp
      simp at hmem
    rw [Setting.printRecords, hnone]
    rfl

/-! ### Runs -/

variable {args : List String} {file rules : Option String} {output : Output} {n : Normalizer}
  {f : Framing} {texts : List String} {broken : List UInt8} {rest : List (List UInt8)}

theorem run_eq_printRecords {bytes : List UInt8}
    (hargs : readArguments s.rulesVariable args = .ok (.normalize file rules output))
    (hrules : s.normalizer? rules = some n) (hinput : file.elim (some s.input) s.file? = some bytes) :
    run s args = s.printRecords (n.normalizeBytesLines s.now bytes) output := by
  rw [run, hargs]
  simp only [Setting.perform, Setting.normalize, hrules, hinput]

theorem printRecords_texts (h : f.segments = texts.map encode) :
    s.printRecords (n.normalizeBytesLines s.now f.bytes) output =
      .success (s.shown (texts.map (n.normalize s.now)) output) := by
  rw [n.normalizeBytesLines_texts s.now h, printRecords_some]

theorem printRecords_broken (h : f.segments = texts.map encode ++ broken :: rest)
    (hbroken : IsBroken broken) :
    s.printRecords (n.normalizeBytesLines s.now f.bytes) output =
      .failure (shownBefore (texts.map (n.normalize s.now)) output) "" := by
  obtain ⟨answers, hanswers⟩ := n.normalizeBytesLines_broken s.now h hbroken
  rw [hanswers, printRecords_none]

/-- The exit tells whether a line is broken. -/
theorem exit_printRecords (s : Setting) (n : Normalizer) (output : Output) (f : Framing) :
    (s.printRecords (n.normalizeBytesLines s.now f.bytes) output).exit = 1 ∧
        (∃ segment ∈ f.segments, IsBroken segment) ∨
      (s.printRecords (n.normalizeBytesLines s.now f.bytes) output).exit = 0 ∧
        ∀ segment ∈ f.segments, ¬ IsBroken segment := by
  rcases Text.exists_texts f.segments with ⟨texts, h⟩ | ⟨texts, broken, rest, h, hbroken⟩
  · rw [printRecords_texts h, h]
    exact .inr ⟨rfl, List.forall_mem_map.mpr fun text _ => Text.not_isBroken_encode text⟩
  · rw [printRecords_broken h hbroken]
    exact .inl ⟨rfl, broken, by simp [h], hbroken⟩

/-- One more rule, named by the variable. -/
def ruledSetting (input : List UInt8) : Setting where
  file? name := if name = "more.toml" then
    some (encode "[[rules]]\nname = 'any'\npattern = '^(?P<message>.*)$'\n") else none
  input := input
  rulesVariable := some "more.toml"
  coloured := false
  now := ⟨0, 0⟩

theorem isSome_ruledSetting (input : List UInt8) :
    ((ruledSetting input).normalizer? (some "more.toml")).isSome = true := by
  have hempty : ((ruledSetting []).normalizer? (some "more.toml")).isSome = true := by
    decide +kernel
  simpa only [Setting.normalizer?, ruledSetting] using hempty

/-- A line that ends within a character, and a last one without an end that begins with none. -/
def tornFraming : Framing where
  ended := [encode "first\r", [0xC3], encode "later"]
  last := [0xFF]
  noFeed_ended := by decide
  noFeed_last := by decide

end Cli

end Logbook
