import Logbook.Normalizer
import Logbook.Proofs.Text.Lines
import Mathlib.Data.List.Forall2
import Mathlib.Data.List.ReduceOption

/-! Reading bytes line by line. There is one answer for every segment and it depends on the segment
alone: the record of the text that its bytes encode, or none. So it makes no difference whether
lines are written to bytes and read back, or normalized together, one by one or as they arrive. -/

namespace Logbook.Normalizer

open Text (Framing IsLine)
open Text.Utf8 (encode)

variable {n : Normalizer} {now : Time.Instant}

/-- The record of the text that bytes encode, none for other bytes. -/
inductive Answers (n : Normalizer) (now : Time.Instant) : List UInt8 → Option Record → Prop where
  | record (text : String) : n.Answers now (encode text) (some (n.normalize now text))
  | fault {segment : List UInt8} (h : ∀ text, encode text ≠ segment) : n.Answers now segment none

theorem answers_decode? (segment : List UInt8) :
    n.Answers now segment ((Text.Utf8.decode? segment).map (n.normalize now)) := by
  cases h : Text.Utf8.decode? segment with
  | none =>
    refine .fault fun text htext => ?_
    rw [← htext, Text.Utf8.decode?_encode] at h
    cases h
  | some text =>
    rw [Text.Utf8.decode?_eq_some_iff.mp h]
    exact .record text

/-- Nothing is replaced in bytes that have a record. -/
theorem Answers.eq_normalizeBytes {segment : List UInt8} {r : Record}
    (h : n.Answers now segment (some r)) : r = n.normalizeBytes now segment := by
  cases h with
  | record text => rw [normalizeBytes, Text.Utf8.decodeLossy_encode]

theorem normalizeBytesLines_bytes (f : Framing) :
    n.normalizeBytesLines now f.bytes =
      f.segments.map fun segment => (Text.Utf8.decode? segment).map (n.normalize now) := by
  rw [normalizeBytesLines, Text.lines, Text.byteLines_bytes, List.map_map]
  rfl

theorem normalizeBytesLines_encode {eol : String} (heol : eol = "\n" ∨ eol = "\r\n")
    {texts : List String} (h : ∀ text ∈ texts, IsLine text) :
    n.normalizeBytesLines now (encode (String.join (texts.map (· ++ eol)))) =
      (n.normalizeLines now texts).map some := by
  rw [normalizeBytesLines, Text.lines_encode heol h, normalizeLines, List.map_map, List.map_map]
  rfl

theorem reduceOption_normalizeStream (arrivals : List (Option String)) :
    (n.normalizeStream now arrivals).reduceOption = n.normalizeLines now arrivals.reduceOption :=
  List.reduceOption_map

/-- All bytes are pieces between line feeds, and the segments of these are answered in order, each
by itself. Lines that are written with either end of line get the records that they get together,
one by one or as they arrive. -/
theorem normalizeBytesLines_framing (n : Normalizer) (now : Time.Instant) :
    (∀ bytes, ∃ f : Framing, f.bytes = bytes) ∧
      (∀ f : Framing,
        List.Forall₂ (n.Answers now) f.segments (n.normalizeBytesLines now f.bytes)) ∧
      (∀ segment r, n.Answers now segment (some r) → r = n.normalizeBytes now segment) ∧
      (∀ (f g : Framing) (i : Nat), f.segments[i]? = g.segments[i]? →
        (n.normalizeBytesLines now f.bytes)[i]? = (n.normalizeBytesLines now g.bytes)[i]?) ∧
      ∀ texts : List String, (∀ text ∈ texts, IsLine text) →
        ∀ eol : String, eol = "\n" ∨ eol = "\r\n" →
          n.normalizeBytesLines now (encode (String.join (texts.map (· ++ eol)))) =
              (n.normalizeBatch now texts).map some ∧
            n.normalizeLines now texts = n.normalizeBatch now texts ∧
            ∀ arrivals : List (Option String), arrivals.reduceOption = texts →
              (n.normalizeStream now arrivals).reduceOption = n.normalizeBatch now texts := by
  refine ⟨Text.exists_framing, fun f => ?each, fun segment r h => h.eq_normalizeBytes,
    fun f g i h => ?alone, fun texts htexts eol heol => ⟨?written, rfl, ?arriving⟩⟩
  case each =>
    rw [normalizeBytesLines_bytes, List.forall₂_map_right_iff, List.forall₂_same]
    exact fun segment _ => answers_decode? segment
  case alone =>
    simp only [normalizeBytesLines_bytes, List.getElem?_map, h]
  case written => exact normalizeBytesLines_encode heol htexts
  case arriving =>
    rintro arrivals rfl
    exact reduceOption_normalizeStream arrivals

theorem normalizeBytesLines_framing_crlf :
    (∀ text ∈ ["GET /é", "tab\t"], IsLine text) ∧
      builtin.normalizeBytesLines ⟨0, 0⟩
          (encode (String.join (["GET /é", "tab\t"].map (· ++ "\r\n")))) =
        (builtin.normalizeBatch ⟨0, 0⟩ ["GET /é", "tab\t"]).map some := by
  obtain ⟨-, -, -, -, hwritten⟩ := normalizeBytesLines_framing builtin ⟨0, 0⟩
  have hlines : ∀ text ∈ ["GET /é", "tab\t"], IsLine text := by decide
  exact ⟨hlines, (hwritten _ hlines "\r\n" (.inr rfl)).1⟩

end Logbook.Normalizer
